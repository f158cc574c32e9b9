/-
What validated entries promise, and what becomes of the promise.

A validator that succeeds promises something of the key and something of the tiers of an
entry.  The two are kept apart, because a catalog does not store the entries that were
checked: an update puts the new tiers under the old spelling of their key.  What every
operation does keep is that all keys are good keys and all tables are good tables
(`Holds`).

A good table has a tier for every amount.  A sensible one also charges what can be
charged: no less than nothing and, by percent, no more than the amount.  That last bound
rests on the fee being exact, so it stops where the digits of a quotient stop.
-/
import SchoolFees.Proofs.Decimal.LongDivision
import SchoolFees.Proofs.Pricing.CatalogKeys
import SchoolFees.Proofs.Pricing.Selection

namespace SchoolFees

/-! ### Tiers -/

namespace Tier

variable {t : Tier} {amount : Decimal}

/-- The numbers of the tier make sense. -/
structure Sensible (t : Tier) : Prop where
  charge_nonneg : 0 ≤ t.charge
  percent_le : t.kind = .percent → t.charge ≤ 100
  bound_pos : ∀ bound, t.bound = some bound → 0 < bound

theorem check_eq_ok_iff {u : Unit} : t.check = .ok u ↔ t.Sensible := by
  simp only [check, Outcome.bind_eq_ok, require_eq_ok, Decimal.not_lt_iff, not_and]
  refine ⟨?_, ?_⟩
  · intro h
    obtain ⟨_, charge, _, percent, h⟩ := h
    refine ⟨charge, percent, ?_⟩
    intro bound hbound
    rw [hbound] at h
    exact Decimal.not_le_iff.mp (require_eq_ok.mp h)
  · intro h
    refine ⟨(), h.charge_nonneg, (), h.percent_le, ?_⟩
    cases hbound : t.bound with
    | none => rfl
    | some bound => exact require_eq_ok.mpr (Decimal.not_le_iff.mpr (h.bound_pos bound hbound))

/-- A sensible tier does not pay out. -/
theorem Sensible.fee_nonneg (h : t.Sensible) (nonneg : 0 ≤ amount) : 0 ≤ t.fee amount := by
  unfold fee
  cases t.kind with
  | flat => exact h.charge_nonneg
  | percent => exact Decimal.zero_le_div (Decimal.zero_le_mul h.charge_nonneg nonneg) (by decide)

/-- A sensible percentage takes the amount at most, as long as the fee is exact. -/
theorem Sensible.fee_le (h : t.Sensible) (percent : t.kind = .percent) (nonneg : 0 ≤ amount)
    (few : (t.charge * amount).significantDigits ≤ Quotient.significantDigits) :
    t.fee amount ≤ amount := by
  have rate := Decimal.le_iff.mp (h.percent_le percent)
  have size := Decimal.le_iff.mp nonneg
  rw [Decimal.toRat_hundred] at rate
  rw [Decimal.toRat_ofNat, Nat.cast_zero] at size
  unfold fee
  rw [percent, Decimal.le_iff, Decimal.toRat_div_hundred few, Decimal.toRat_mul]
  have full := mul_le_mul_of_nonneg_right rate size
  linarith

end Tier

/-! ### Tables -/

namespace TierTable

variable {table : TierTable} {amount : Decimal} {tier : Tier}

theorem check_eq_ok_iff {u : Unit} : table.check = .ok u ↔ table.catchAllCount = 1 := by
  simp only [check, Outcome.bind_eq_ok, require_eq_ok]
  refine ⟨?_, ?_⟩
  · intro h
    obtain ⟨_, -, single⟩ := h
    exact single
  · intro single
    refine ⟨(), ?_, single⟩
    rintro rfl
    cases single

/-- A table with a tier for every amount has one for this amount. -/
theorem exists_select (single : table.catchAllCount = 1) (amount : Decimal) :
    ∃ tier, table.select amount = .ok tier := by
  have one : 0 < table.catchAllCount := by omega
  obtain ⟨catchAll, hmem, unbounded⟩ := List.countP_pos_iff.mp one
  have accepts := Tier.accepts_of_isCatchAll (of_decide_eq_true unbounded) amount
  cases selected : table.select amount with
  | ok tier => exact ⟨tier, rfl⟩
  | error e =>
    obtain ⟨refuse, -⟩ := select_eq_error_iff.mp selected
    exact absurd accepts (refuse catchAll hmem)

theorem mem_of_select (h : table.select amount = .ok tier) : tier ∈ table := by
  obtain ⟨before, after, rfl, -⟩ := select_eq_ok_iff.mp h
  exact List.mem_append_right before List.mem_cons_self

/-- The tiers make sense, one of them takes every amount, and the bounds of the others rise. -/
structure Sensible (table : TierTable) : Prop where
  catchAll : table.catchAllCount = 1
  tiers : ∀ t ∈ table, t.Sensible
  ascending : Decimal.areAscending table.bounds = true

end TierTable

/-! ### Validators -/

/-- Both parts of the key say something. -/
def ChargeKey.Named (key : ChargeKey) : Prop :=
  ¬ Text.isAllBlank key.platform ∧ ¬ Text.isAllBlank key.mode

namespace Validator

variable {entry : Entry}

theorem standard_eq_ok_iff {u : Unit} :
    standard entry = .ok u ↔ entry.key.Named ∧ entry.tiers.catchAllCount = 1 := by
  simp only [standard, Outcome.bind_eq_ok, require_eq_ok, TierTable.check_eq_ok_iff]
  refine ⟨?_, ?_⟩
  · intro h
    obtain ⟨_, platform, _, mode, single⟩ := h
    exact ⟨⟨platform, mode⟩, single⟩
  · intro h
    obtain ⟨⟨platform, mode⟩, single⟩ := h
    exact ⟨(), platform, (), mode, single⟩

theorem strict_eq_ok_iff {u : Unit} :
    strict entry = .ok u ↔ entry.key.Named ∧ entry.tiers.Sensible := by
  simp only [strict, Outcome.bind_eq_ok, require_eq_ok, standard_eq_ok_iff, Outcome.forM_eq_ok,
    Tier.check_eq_ok_iff]
  refine ⟨?_, ?_⟩
  · intro h
    obtain ⟨_, ⟨named, single⟩, _, tiers, ascending⟩ := h
    exact ⟨named, single, tiers, ascending⟩
  · intro h
    obtain ⟨named, single, tiers, ascending⟩ := h
    exact ⟨(), ⟨named, single⟩, (), tiers, ascending⟩

/-- What the validator accepts has a key and a table of these kinds. -/
def Ensures (accepts : Validator) (keys : ChargeKey → Prop) (tables : TierTable → Prop) : Prop :=
  ∀ entry, accepts entry = .ok () → keys entry.key ∧ tables entry.tiers

end Validator

/-! ### Catalogs -/

namespace Catalog

variable {keys : ChargeKey → Prop} {tables : TierTable → Prop} {accepts : Validator}
  {c c' : Catalog} {entry : Entry} {key : ChargeKey}

/-- All keys and all tables of the catalog are of these kinds. -/
def Holds (keys : ChargeKey → Prop) (tables : TierTable → Prop) (c : Catalog) : Prop :=
  ∀ e ∈ c.entries, keys e.key ∧ tables e.tiers

theorem holds_empty : Holds keys tables .empty := nofun

/-- The standard catalog passes the strictest check, though nobody makes it. -/
theorem holds_standard : Holds ChargeKey.Named TierTable.Sensible .standard := by
  have passes : ∀ e ∈ standard.entries, Validator.strict e = .ok () := by decide +kernel
  exact fun e he => Validator.strict_eq_ok_iff.mp (passes e he)

theorem holds_add (ensures : accepts.Ensures keys tables) (holds : c.Holds keys tables)
    (h : c.add accepts entry = .ok c') : c'.Holds keys tables := by
  obtain ⟨accepted, -, rfl⟩ := add_eq_ok_iff.mp h
  intro e he
  rcases List.mem_append.mp he with he | he
  · exact holds e he
  · rw [List.mem_singleton.mp he]
    exact ensures entry accepted

/-- The key is an old one and the table is the new one. -/
theorem holds_update (table : tables entry.tiers) (holds : c.Holds keys tables)
    (h : c.update entry = .ok c') : c'.Holds keys tables := by
  obtain ⟨-, known, rfl⟩ := update_eq_ok_iff.mp h
  obtain ⟨found, known⟩ := Option.ne_none_iff_exists'.mp known
  obtain ⟨before, after, hsplit, hsame, hbefore⟩ := split_of_find? known
  unfold Holds at holds ⊢
  rw [hsplit] at holds
  simp only [hsplit, replaceTiers_of_split hbefore hsame]
  simp only [List.forall_mem_append, List.forall_mem_cons] at holds ⊢
  exact ⟨holds.1, ⟨holds.2.1.1, table⟩, holds.2.2⟩

theorem holds_delete (holds : c.Holds keys tables) (h : c.delete key = .ok (entry, c')) :
    c'.Holds keys tables := by
  obtain ⟨-, rfl⟩ := delete_eq_ok_iff.mp h
  exact fun e he => holds e (List.mem_of_mem_eraseP he)

theorem holds_addAll {entries : List Entry} (ensures : accepts.Ensures keys tables)
    (holds : c.Holds keys tables) (h : c.addAll accepts entries = .ok c') :
    c'.Holds keys tables := by
  unfold addAll at h
  induction entries generalizing c with
  | nil => cases h; exact holds
  | cons entry rest ih =>
    rw [List.foldlM_cons] at h
    obtain ⟨c₁, hadd, h⟩ := Outcome.bind_eq_ok.mp h
    exact ih (holds_add ensures holds hadd) h

end Catalog

end SchoolFees

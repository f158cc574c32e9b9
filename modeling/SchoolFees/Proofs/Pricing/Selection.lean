/-
Which tier prices an amount, and which tiers can price any.

A table is scanned from its front, so the tier that prices an amount is known by two things:
it accepts the amount, and all tiers in front of it refuse.  Tiers refuse an amount together
when each of them has a bound and the amount is above all the bounds (`forall_refuse_iff`),
and with that the question which tiers price anything is one about bounds: a tier that
overtops all tiers in front of it prices its own bound, or, if it has none, whatever lies
above theirs, and no other tier is ever reached (`overtops_iff`).
-/
import SchoolFees.Proofs.Decimal.Worth
import SchoolFees.Pricing.Table

namespace SchoolFees

/-- Above any amounts there are others. -/
theorem Decimal.exists_above (ds : List Decimal) : ∃ above : Decimal, ∀ d ∈ ds, d < above := by
  induction ds with
  | nil => exact ⟨0, nofun⟩
  | cons d rest ih =>
    obtain ⟨above, higher⟩ := ih
    by_cases less : d < above
    · exact ⟨above, List.forall_mem_cons.mpr ⟨less, higher⟩⟩
    · have larger : d < d + 1 := by
        rw [lt_iff, toRat_add, toRat_ofNat]
        exact lt_add_of_pos_right _ (by norm_num)
      refine ⟨d + 1, List.forall_mem_cons.mpr ⟨larger, fun e he => ?_⟩⟩
      have le := le_iff.mp (not_lt_iff.mp less)
      exact lt_iff.mpr ((lt_iff.mp (higher e he)).trans_le (le.trans (lt_iff.mp larger).le))

namespace Tier

variable {t : Tier} {earlier : TierTable} {amount : Decimal}

/-- Among these tiers the tier stands out: none of them takes every amount, and its own bound, if
it has one, is above all of theirs. -/
def Overtops (t : Tier) (earlier : TierTable) : Prop :=
  (∀ e ∈ earlier, ¬ e.IsCatchAll) ∧ ∀ bound ∈ t.bound, ∀ e ∈ earlier.bounds, e < bound

instance (t : Tier) (earlier : TierTable) : Decidable (t.Overtops earlier) :=
  inferInstanceAs (Decidable (_ ∧ _))

theorem accepts_iff : t.Accepts amount ↔ ∀ bound ∈ t.bound, amount ≤ bound := by
  unfold Accepts
  cases t.bound with
  | none => simp
  | some bound => simp

theorem accepts_of_isCatchAll (h : t.IsCatchAll) (amount : Decimal) : t.Accepts amount := by
  rw [accepts_iff, h]
  nofun

/-- A bound is inclusive. -/
theorem accepts_bound {bound : Decimal} (h : t.bound = some bound) : t.Accepts bound := by
  rw [accepts_iff, h]
  rintro _ ⟨rfl⟩
  exact Decimal.le_iff.mpr le_rfl

theorem not_accepts_iff : ¬ t.Accepts amount ↔ ∃ bound ∈ t.bound, bound < amount := by
  rw [accepts_iff]
  push Not
  exact exists_congr fun bound => and_congr_right fun _ => Decimal.not_le_iff

end Tier

namespace TierTable

variable {table earlier : TierTable} {tier : Tier} {amount : Decimal} {i : Nat}

theorem mem_bounds {bound : Decimal} : bound ∈ table.bounds ↔ ∃ t ∈ table, t.bound = some bound :=
  List.mem_filterMap

/-! ### The tier that prices an amount -/

/-- The first tier that accepts the amount is the one that prices it. -/
theorem select_eq_ok_iff :
    table.select amount = .ok tier ↔
      ∃ before after, table = before ++ tier :: after ∧ tier.Accepts amount ∧
        ∀ t ∈ before, ¬ t.Accepts amount := by
  have found : table.find? (fun t => t.Accepts amount) = some tier ↔
      ∃ before after, table = before ++ tier :: after ∧ tier.Accepts amount ∧
        ∀ t ∈ before, ¬ t.Accepts amount := by
    rw [List.find?_eq_some_iff_append]
    simp only [decide_eq_true_eq, Bool.not_eq_true', decide_eq_false_iff_not]
    refine ⟨?_, ?_⟩
    · intro h
      obtain ⟨accepts, before, after, parts, refuse⟩ := h
      exact ⟨before, after, parts, accepts, refuse⟩
    · intro h
      obtain ⟨before, after, parts, accepts, refuse⟩ := h
      exact ⟨accepts, before, after, parts, refuse⟩
  rw [← found]
  unfold select
  cases table.find? fun t => t.Accepts amount with
  | none => simp
  | some t => simp

theorem select_eq_error_iff {e : FeeError} :
    table.select amount = .error e ↔
      (∀ t ∈ table, ¬ t.Accepts amount) ∧ e = .noMatchingTier amount := by
  have missed : table.find? (fun t => t.Accepts amount) = none ↔
      ∀ t ∈ table, ¬ t.Accepts amount := by simp
  rw [← missed]
  unfold select
  cases table.find? fun t => t.Accepts amount with
  | none => simp [eq_comm]
  | some t => simp

/-- The fee is that of the tier that prices the amount. -/
theorem fee_eq_ok_iff {fee : Decimal} :
    table.fee amount = .ok fee ↔
      ∃ tier, table.select amount = .ok tier ∧ fee = tier.fee amount := by
  unfold TierTable.fee
  cases table.select amount with
  | error e => simp [Except.map]
  | ok tier => simp [Except.map, eq_comm]

/-- Without such a tier there is no fee. -/
theorem fee_eq_error_iff {e : FeeError} :
    table.fee amount = .error e ↔
      (∀ t ∈ table, ¬ t.Accepts amount) ∧ e = .noMatchingTier amount := by
  rw [← select_eq_error_iff]
  unfold TierTable.fee
  cases table.select amount with
  | error e' => simp [Except.map]
  | ok tier => simp [Except.map]

theorem selectedAt?_eq_some_iff :
    table.selectedAt? amount = some i ↔
      ∃ tier, table[i]? = some tier ∧ tier.Accepts amount ∧
        ∀ t ∈ table.take i, ¬ t.Accepts amount := by
  unfold selectedAt?
  rw [List.findIdx?_eq_some_iff_getElem]
  simp only [decide_eq_true_eq, List.mem_take_iff_getElem, List.getElem?_eq_some_iff]
  refine ⟨?_, ?_⟩
  · intro h
    obtain ⟨bound, accepts, refuse⟩ := h
    refine ⟨table[i], ⟨bound, rfl⟩, accepts, ?_⟩
    rintro _ ⟨j, hj, rfl⟩
    exact refuse j (by omega)
  · intro h
    obtain ⟨_, ⟨bound, rfl⟩, accepts, refuse⟩ := h
    exact ⟨bound, accepts, fun j hj => refuse _ ⟨j, by omega, rfl⟩⟩

/-! ### The tiers that can price anything -/

/-- Tiers refuse an amount together when it is above all their bounds, and each of them has one. -/
theorem forall_refuse_iff :
    (∀ t ∈ table, ¬ t.Accepts amount) ↔
      (∀ t ∈ table, ¬ t.IsCatchAll) ∧ ∀ bound ∈ table.bounds, bound < amount := by
  refine ⟨?_, ?_⟩
  · intro refuse
    refine ⟨fun t ht catchAll => refuse t ht (Tier.accepts_of_isCatchAll catchAll amount), ?_⟩
    intro bound hbound
    obtain ⟨t, ht, bounded⟩ := mem_bounds.mp hbound
    obtain ⟨_, same, less⟩ := Tier.not_accepts_iff.mp (refuse t ht)
    cases bounded.symm.trans same
    exact less
  · rintro ⟨bounded, above⟩ t ht
    obtain ⟨bound, hbound⟩ := Option.ne_none_iff_exists'.mp (bounded t ht)
    exact Tier.not_accepts_iff.mpr ⟨bound, hbound, above bound (mem_bounds.mpr ⟨t, ht, hbound⟩)⟩

end TierTable

namespace Tier

variable {t : Tier} {earlier : TierTable}

/-- A tier that stands out prices its own bound. -/
theorem Overtops.refuse_bound {bound : Decimal} (h : t.Overtops earlier)
    (bounded : t.bound = some bound) : ∀ e ∈ earlier, ¬ e.Accepts bound :=
  TierTable.forall_refuse_iff.mpr ⟨h.1, h.2 bound bounded⟩

/-- **A tier prices some amount when it overtops the tiers in front of it**, and only then. -/
theorem overtops_iff :
    t.Overtops earlier ↔ ∃ amount, t.Accepts amount ∧ ∀ e ∈ earlier, ¬ e.Accepts amount := by
  refine ⟨?_, ?_⟩
  · intro h
    cases bounded : t.bound with
    | some bound => exact ⟨bound, accepts_bound bounded, h.refuse_bound bounded⟩
    | none =>
      obtain ⟨above, higher⟩ := Decimal.exists_above earlier.bounds
      exact ⟨above, accepts_of_isCatchAll bounded above,
        TierTable.forall_refuse_iff.mpr ⟨h.1, higher⟩⟩
  · rintro ⟨amount, accepts, refuse⟩
    obtain ⟨finite, above⟩ := TierTable.forall_refuse_iff.mp refuse
    refine ⟨finite, fun bound hbound e he => ?_⟩
    have le := accepts_iff.mp accepts bound hbound
    exact Decimal.lt_iff.mpr ((Decimal.lt_iff.mp (above e he)).trans_le (Decimal.le_iff.mp le))

end Tier

end SchoolFees

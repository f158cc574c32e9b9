/-
Tables as staircases.

Behind its first tier without a bound a table is never read, and in front of it a tier is read
in vain whose bound some earlier tier has already reached.  What is left without all these
is the table's staircase, on which every bound is above the one before and a tier without a
bound comes last.  Scanning a staircase for the first tier that accepts an amount is looking
for the tightest bound (`tightest_select`), and scanning the table comes to the same
(`select_staircase`), so for all the freedom in the order of its tiers a table prices by
tightest bounds, those of its staircase.

Nothing smaller than the staircase would do: each tier on it prices some amount.
-/
import SchoolFees.Proofs.Pricing.Selection

namespace SchoolFees

/-- The tier has a bound, and the other one has a higher bound or none. -/
def Tier.Below (t t' : Tier) : Prop := ∃ bound ∈ t.bound, ∀ bound' ∈ t'.bound, bound < bound'

theorem Tier.Overtops.below {t e : Tier} {earlier : TierTable} (h : t.Overtops earlier)
    (he : e ∈ earlier) : e.Below t := by
  obtain ⟨bound, hbound⟩ := Option.ne_none_iff_exists'.mp (h.1 e he)
  refine ⟨bound, hbound, fun bound' hbound' => ?_⟩
  exact h.2 bound' hbound' bound (TierTable.mem_bounds.mpr ⟨e, he, hbound⟩)

theorem Tier.overtops_of_below {t : Tier} {earlier : TierTable} (h : ∀ e ∈ earlier, e.Below t) :
    t.Overtops earlier := by
  refine ⟨?_, ?_⟩
  · intro e he catchAll
    obtain ⟨bound, hbound, -⟩ := h e he
    cases catchAll.symm.trans hbound
  · intro bound' hbound' d hd
    obtain ⟨e, he, hbound⟩ := TierTable.mem_bounds.mp hd
    obtain ⟨bound, same, less⟩ := h e he
    cases hbound.symm.trans same
    exact less bound' hbound'

namespace TierTable

variable {table before after : TierTable} {tier : Tier} {amount : Decimal} {i : Nat}

/-- The table keeps the tier at this position: no tier without a bound stands in front of it, and
its own bound, if it has one, is above every bound in front. -/
def Keeps (table : TierTable) (i : Nat) : Prop :=
  ∃ tier, table[i]? = some tier ∧ tier.Overtops (table.take i)

/-- The tiers that the table keeps, in stored order: those up to the first without a bound, less
each whose bound is not above every bound in front of it. -/
def staircase (table : TierTable) : TierTable :=
  (table.zipIdx.filter fun (tier, i) => tier.Overtops (table.take i)).map (·.1)

/-- How an amount is priced by the tightest bound. -/
inductive Tightest (table : TierTable) (amount : Decimal) : Except FeeError Tier → Prop
  /-- The tier's bound is the smallest that the amount does not exceed. -/
  | bounded {tier : Tier} {bound : Decimal} (mem : tier ∈ table) (bounded : tier.bound = some bound)
      (fits : amount ≤ bound)
      (smallest : ∀ t ∈ table, t ≠ tier → ∀ b ∈ t.bound, amount ≤ b → bound < b) :
      Tightest table amount (.ok tier)
  /-- The amount exceeds every bound, and the tier has none. -/
  | unbounded {tier : Tier} (mem : tier ∈ table) (catchAll : tier.IsCatchAll)
      (exceeds : ∀ b ∈ table.bounds, b < amount) : Tightest table amount (.ok tier)
  /-- The amount exceeds every bound, and every tier has one. -/
  | missed (noCatchAll : ∀ t ∈ table, ¬ t.IsCatchAll) (exceeds : ∀ b ∈ table.bounds, b < amount) :
      Tightest table amount (.error (.noMatchingTier amount))

/-! ### The staircase -/

theorem staircase_sublist (table : TierTable) : table.staircase.Sublist table := by
  have kept : table.staircase.Sublist (table.zipIdx.map (·.1)) := List.filter_sublist.map _
  rwa [List.zipIdx_map_fst] at kept

/-- A tier that overtops all in front of it is on the staircase, behind some of those. -/
theorem staircase_of_overtops (h : tier.Overtops before) :
    ∃ kept rest, (before ++ tier :: after).staircase = kept ++ tier :: rest ∧
      ∀ t ∈ kept, t ∈ before := by
  have front : (before ++ tier :: after).take before.length = before := List.take_left
  unfold staircase
  rw [List.zipIdx_append, List.zipIdx_cons, List.filter_append, List.map_append, Nat.zero_add,
    List.filter_cons_of_pos (by simpa only [front, decide_eq_true_eq] using h), List.map_cons]
  refine ⟨_, _, rfl, fun t ht => ?_⟩
  obtain ⟨⟨_, j⟩, hmem, rfl⟩ := List.mem_map.mp ht
  exact List.fst_mem_of_mem_zipIdx (List.mem_filter.mp hmem).1

/-- **The staircase prices every amount as the table does.** -/
theorem select_staircase (table : TierTable) (amount : Decimal) :
    table.staircase.select amount = table.select amount := by
  cases selected : table.select amount with
  | error e =>
    obtain ⟨refuse, rfl⟩ := select_eq_error_iff.mp selected
    have fewer := (staircase_sublist table).subset
    exact select_eq_error_iff.mpr ⟨fun t ht => refuse t (fewer ht), rfl⟩
  | ok tier =>
    obtain ⟨before, after, rfl, accepts, refuse⟩ := select_eq_ok_iff.mp selected
    have overtops : tier.Overtops before := Tier.overtops_iff.mpr ⟨amount, accepts, refuse⟩
    obtain ⟨kept, rest, steps, earlier⟩ := @staircase_of_overtops before after tier overtops
    exact select_eq_ok_iff.mpr ⟨kept, rest, steps, accepts, fun t ht => refuse t (earlier t ht)⟩

/-- From one step of the staircase to the next, bounds rise. -/
theorem pairwise_staircase (table : TierTable) : table.staircase.Pairwise Tier.Below := by
  have positions : table.zipIdx.Pairwise fun p q => p.2 < q.2 := by
    rw [← List.pairwise_map, List.zipIdx_map_snd]
    exact List.pairwise_lt_range'
  unfold staircase
  rw [List.pairwise_map]
  refine List.Pairwise.imp_of_mem ?_ (positions.filter _)
  intro p q hp hq ahead
  obtain ⟨hp, -⟩ := List.mem_filter.mp hp
  obtain ⟨-, overtops⟩ := List.mem_filter.mp hq
  refine (of_decide_eq_true overtops).below ?_
  have stands : table[p.2]? = some p.1 := List.mem_zipIdx_iff_getElem?.mp hp
  exact List.mem_of_getElem? ((List.getElem?_take_of_lt ahead).trans stands)

/-- **On a staircase the first tier that accepts an amount has the tightest bound.** -/
theorem tightest_select (rising : table.Pairwise Tier.Below) (amount : Decimal) :
    table.Tightest amount (table.select amount) := by
  cases selected : table.select amount with
  | error e =>
    obtain ⟨refuse, rfl⟩ := select_eq_error_iff.mp selected
    obtain ⟨finite, exceeds⟩ := forall_refuse_iff.mp refuse
    exact .missed finite exceeds
  | ok tier =>
    obtain ⟨before, after, rfl, accepts, refuse⟩ := select_eq_ok_iff.mp selected
    obtain ⟨-, behind, -⟩ := List.pairwise_append.mp rising
    have above : ∀ t ∈ after, tier.Below t := (List.pairwise_cons.mp behind).1
    cases hbound : tier.bound with
    | some bound =>
      refine .bounded (by simp) hbound (Tier.accepts_iff.mp accepts bound hbound) ?_
      intro t ht other b hb fits
      rcases List.mem_append.mp ht with earlier | ht
      · -- What stands in front of the tier refuses the amount.
        refine absurd (Tier.accepts_iff.mpr fun b' hb' => ?_) (refuse t earlier)
        cases hb.symm.trans hb'
        exact fits
      · have later := (List.mem_cons.mp ht).resolve_left other
        obtain ⟨_, same, less⟩ := above t later
        cases hbound.symm.trans same
        exact less b hb
    | none =>
      -- Nothing can stand behind a tier without a bound.
      have last : after = [] := by
        refine List.eq_nil_iff_forall_not_mem.mpr fun t ht => ?_
        obtain ⟨_, same, -⟩ := above t ht
        cases hbound.symm.trans same
      subst last
      refine .unbounded (by simp) hbound ?_
      have exceeds := (forall_refuse_iff.mp refuse).2
      simpa [bounds, hbound] using exceeds

/-! ### The tiers that are kept -/

/-- **A tier is kept when it prices some amount.** -/
theorem keeps_iff : table.Keeps i ↔ ∃ amount, table.selectedAt? amount = some i := by
  simp only [Keeps, selectedAt?_eq_some_iff, Tier.overtops_iff]
  refine ⟨?_, ?_⟩
  · intro h
    obtain ⟨tier, stands, amount, prices⟩ := h
    exact ⟨amount, tier, stands, prices⟩
  · intro h
    obtain ⟨amount, tier, stands, prices⟩ := h
    exact ⟨tier, stands, amount, prices⟩

/-- A tier that is kept prices its own bound. -/
theorem selectedAt?_bound {bound : Decimal} (kept : table.Keeps i) (stands : table[i]? = some tier)
    (bounded : tier.bound = some bound) : table.selectedAt? bound = some i := by
  obtain ⟨_, same, overtops⟩ := kept
  cases stands.symm.trans same
  exact selectedAt?_eq_some_iff.mpr
    ⟨tier, stands, Tier.accepts_bound bounded, overtops.refuse_bound bounded⟩

/-- A table misses an amount when all of its tiers have bounds. -/
theorem exists_missed_iff :
    (∃ amount, table.select amount = .error (.noMatchingTier amount)) ↔
      ∀ t ∈ table, ¬ t.IsCatchAll := by
  simp only [select_eq_error_iff, and_true, forall_refuse_iff]
  refine ⟨?_, ?_⟩
  · intro h
    obtain ⟨amount, finite, -⟩ := h
    exact finite
  · intro finite
    obtain ⟨above, higher⟩ := Decimal.exists_above table.bounds
    exact ⟨above, finite, higher⟩

/--
**A table prices as its staircase does, and the staircase by the tightest bound.**  For
every amount the same tier is selected, or none, and so the fee is the same; on the staircase
it is the tier with the smallest bound that is not exceeded, or else the one without a bound.
The fee is what that tier charges on the amount, and there is none where every tier refuses
it.  The tiers kept are those that price some amount, a bounded one its own bound, and the
table misses some amount just when none of its tiers is without a bound.
-/
theorem prices_as_staircase (table : TierTable) :
    (∀ amount, table.select amount = table.staircase.select amount ∧
      table.fee amount = table.staircase.fee amount ∧
      table.staircase.Tightest amount (table.staircase.select amount)) ∧
      (∀ amount,
        (∀ fee, table.fee amount = .ok fee ↔
          ∃ tier, table.select amount = .ok tier ∧ fee = tier.fee amount) ∧
        ∀ e, table.fee amount = .error e ↔
          (∀ t ∈ table, ¬ t.Accepts amount) ∧ e = .noMatchingTier amount) ∧
      (∀ i, table.Keeps i ↔ ∃ amount, table.selectedAt? amount = some i) ∧
      (∀ i tier bound, table.Keeps i → table[i]? = some tier → tier.bound = some bound →
        table.selectedAt? bound = some i) ∧
      ((∃ amount, table.select amount = .error (.noMatchingTier amount)) ↔
        ∀ t ∈ table, ¬ t.IsCatchAll) := by
  refine ⟨?_, ?_, fun i => keeps_iff, ?_, exists_missed_iff⟩
  · intro amount
    have same := select_staircase table amount
    refine ⟨same.symm, ?_, tightest_select (pairwise_staircase table) amount⟩
    rw [fee, fee, same]
  · intro amount
    exact ⟨fun fee => fee_eq_ok_iff, fun e => fee_eq_error_iff⟩
  · intro i tier bound kept stands bounded
    exact selectedAt?_bound kept stands bounded

/-- Two bounds that the first tier has reached already, one of them by the very amount, and a tier
behind the one without a bound. -/
def disordered : TierTable :=
  [⟨some 2000, .flat, 1⟩, ⟨some 1000, .flat, 2⟩, ⟨some ⟨200000, 2⟩, .flat, 3⟩,
    ⟨some 5000, .percent, 4⟩, ⟨none, .flat, 5⟩, ⟨some 9000, .flat, 6⟩]

/-- Three of the six tiers are kept, and the last bound among them is priced by its own tier. -/
theorem prices_as_staircase_disordered :
    disordered.staircase = [⟨some 2000, .flat, 1⟩, ⟨some 5000, .percent, 4⟩, ⟨none, .flat, 5⟩] ∧
      disordered.Keeps 3 ∧ disordered[3]? = some ⟨some 5000, .percent, 4⟩ ∧
      disordered.selectedAt? 5000 = some 3 := by
  have kept : disordered.Keeps 3 := ⟨_, rfl, by decide +kernel⟩
  obtain ⟨-, -, -, ownBound, -⟩ := prices_as_staircase disordered
  exact ⟨by decide +kernel, kept, rfl, ownBound 3 _ 5000 kept rfl rfl⟩

end TierTable

end SchoolFees

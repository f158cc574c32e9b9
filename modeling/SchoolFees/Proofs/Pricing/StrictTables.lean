/-
Which tiers of a strictly validated table are read.

The strict check wants bounds to rise from one bounded tier to the next and passes the tier
without a bound over, wherever it stands.  So a strict table is a staircase as far as that tier, and
what stands behind it is never read, however tight its bounds are.  Whoever wants the tightest
bound of all to price an amount has to store the tier without a bound last.
-/
import SchoolFees.Proofs.Pricing.Staircase
import SchoolFees.Proofs.Pricing.Validity

namespace SchoolFees

theorem Decimal.areAscending_iff {ds : List Decimal} :
    areAscending ds = true ↔ ds.Pairwise (· < ·) := by
  induction ds with
  | nil => simp [areAscending]
  | cons a rest ih =>
    cases rest with
    | nil => simp [areAscending]
    | cons b rest =>
      simp only [areAscending, Bool.and_eq_true, decide_eq_true_eq, ih, List.pairwise_cons (a := a)]
      refine and_congr_left fun ascending => ⟨?_, fun h => h b List.mem_cons_self⟩
      intro less
      refine List.forall_mem_cons.mpr ⟨less, fun c hc => ?_⟩
      have higher := (List.pairwise_cons.mp ascending).1 c hc
      exact lt_iff.mpr ((lt_iff.mp less).trans (lt_iff.mp higher))

namespace TierTable

variable {table before after : TierTable} {catchAll : Tier} {amount : Decimal} {i : Nat}

/-- A table with one tier without a bound has bounded tiers in front of it and behind it. -/
theorem exists_split_of_catchAllCount (single : table.catchAllCount = 1) :
    ∃ before catchAll after, table = before ++ catchAll :: after ∧ catchAll.IsCatchAll ∧
      (∀ t ∈ before, ¬ t.IsCatchAll) ∧ ∀ t ∈ after, ¬ t.IsCatchAll := by
  have one : 0 < table.catchAllCount := by omega
  obtain ⟨catchAll, hmem, unbounded⟩ := List.countP_pos_iff.mp one
  obtain ⟨before, after, rfl⟩ := List.append_of_mem hmem
  rw [catchAllCount, List.countP_append, List.countP_cons, if_pos unbounded] at single
  have front : before.countP (fun t => t.IsCatchAll) = 0 := by omega
  have back : after.countP (fun t => t.IsCatchAll) = 0 := by omega
  refine ⟨before, catchAll, after, rfl, of_decide_eq_true unbounded, ?_, ?_⟩
  · simpa using front
  · simpa using back

/-- What stands behind a tier without a bound is not read. -/
theorem select_append_of_isCatchAll (unbounded : catchAll.IsCatchAll) (amount : Decimal) :
    (before ++ catchAll :: after).select amount = (before ++ [catchAll]).select amount := by
  have accepts := Tier.accepts_of_isCatchAll unbounded amount
  simp [select, List.find?_append, accepts]

/-- With rising bounds, a table is a staircase as far as its tier without a bound. -/
theorem pairwise_below_of_ascending (rising : (before ++ catchAll :: after).bounds.Pairwise (· < ·))
    (finite : ∀ t ∈ before, ¬ t.IsCatchAll) (unbounded : catchAll.IsCatchAll) :
    (before ++ [catchAll]).Pairwise Tier.Below := by
  rw [bounds, List.pairwise_filterMap] at rising
  rw [List.pairwise_append]
  have front := (List.pairwise_append.mp rising).1
  refine ⟨?_, List.pairwise_singleton _ _, ?_⟩
  · refine List.Pairwise.imp_of_mem ?_ front
    intro t t' ht _ less
    obtain ⟨bound, hbound⟩ := Option.ne_none_iff_exists'.mp (finite t ht)
    exact ⟨bound, hbound, less bound hbound⟩
  · intro t ht t' ht'
    obtain ⟨bound, hbound⟩ := Option.ne_none_iff_exists'.mp (finite t ht)
    rw [List.mem_singleton.mp ht']
    refine ⟨bound, hbound, fun bound' hbound' => ?_⟩
    cases unbounded.symm.trans hbound'

/-- As far as its tier without a bound such a table keeps its tiers, and none behind it. -/
theorem keeps_iff_le (rising : (before ++ [catchAll]).Pairwise Tier.Below)
    (unbounded : catchAll.IsCatchAll) :
    (before ++ catchAll :: after).Keeps i ↔ i ≤ before.length := by
  refine ⟨?_, ?_⟩
  · intro h
    obtain ⟨tier, -, overtops⟩ := h
    by_contra behind
    refine overtops.1 catchAll ?_ unbounded
    exact List.mem_take_iff_getElem.mpr ⟨before.length, by simp; omega, by simp⟩
  · intro le
    -- Neither the tier nor those in front of it change when the table ends with `catchAll`.
    have table : before ++ catchAll :: after = (before ++ [catchAll]) ++ after := by simp
    have inFront : i < (before ++ [catchAll]).length := by simp; omega
    refine ⟨(before ++ [catchAll])[i], ?_, Tier.overtops_of_below fun e he => ?_⟩
    · rw [table, List.getElem?_append_left inFront, List.getElem?_eq_getElem inFront]
    · rw [table, List.take_append_of_le_length inFront.le] at he
      obtain ⟨j, hj, rfl⟩ := List.mem_take_iff_getElem.mp he
      exact List.pairwise_iff_getElem.mp rising j i (by omega) inFront (by omega)

end TierTable

namespace Validator

/--
**A strictly validated table prices by the tightest bound in front of its tier without a
bound.**  There is one such tier; an amount is priced by the smallest bound in front of it that is
not exceeded, or else by that tier, and the tiers that no amount is priced by are those behind it.
-/
theorem strict_prices_tightest (entry : Entry) (accepted : strict entry = .ok ()) :
    ∃ before catchAll after, entry.tiers = before ++ catchAll :: after ∧ catchAll.IsCatchAll ∧
      (∀ t ∈ before, ¬ t.IsCatchAll) ∧ (∀ t ∈ after, ¬ t.IsCatchAll) ∧
      (∀ amount, TierTable.Tightest (before ++ [catchAll]) amount (entry.tiers.select amount)) ∧
      ∀ i, (∃ amount, entry.tiers.selectedAt? amount = some i) ↔ i ≤ before.length := by
  obtain ⟨-, sensible⟩ := strict_eq_ok_iff.mp accepted
  obtain ⟨before, catchAll, after, parts, unbounded, front, back⟩ :=
    TierTable.exists_split_of_catchAllCount sensible.catchAll
  have bounds := Decimal.areAscending_iff.mp sensible.ascending
  rw [parts] at bounds
  have rising := TierTable.pairwise_below_of_ascending bounds front unbounded
  refine ⟨before, catchAll, after, parts, unbounded, front, back, ?_, ?_⟩
  · intro amount
    rw [parts, TierTable.select_append_of_isCatchAll unbounded]
    exact TierTable.tightest_select rising amount
  · intro i
    rw [parts, ← TierTable.keeps_iff, TierTable.keeps_iff_le rising unbounded]

/-- An entry whose bounds rise, with the tier without a bound in third place of four. -/
def unboundedThird : Entry :=
  ⟨⟨"UPI", "Others"⟩,
    [⟨some 1000, .flat, 1⟩, ⟨some 5000, .flat, 2⟩, ⟨none, .flat, 3⟩, ⟨some 9000, .flat, 4⟩]⟩

/-- The third tier prices what is above both bounds in front of it, so the fourth prices nothing. -/
theorem strict_prices_tightest_unboundedThird :
    strict unboundedThird = .ok () ∧ unboundedThird.tiers.selectedAt? 9000 = some 2 ∧
      ¬ ∃ amount, unboundedThird.tiers.selectedAt? amount = some 3 := by
  have accepted : strict unboundedThird = .ok () := by decide +kernel
  obtain ⟨before, catchAll, after, parts, -, front, -, -, read⟩ :=
    strict_prices_tightest unboundedThird accepted
  refine ⟨accepted, by decide +kernel, ?_⟩
  rw [read 3, Nat.not_le]
  by_contra behind
  have third : unboundedThird.tiers[2]? = before[2]? := by
    rw [parts, List.getElem?_append_left (by omega)]
  exact front _ (List.mem_of_getElem? third.symm) rfl

/-- An entry with a bounded tier behind the one without a bound. -/
def unboundedFirst : Entry := ⟨⟨"UPI", "Others"⟩, [⟨none, .flat, 5⟩, ⟨some 1000, .flat, 1⟩]⟩

/-- A strictly validated table need not price by the tightest of all its bounds. -/
theorem strict_passes_hidden_bound :
    strict unboundedFirst = .ok () ∧
      unboundedFirst.tiers.select 100 = .ok ⟨none, .flat, 5⟩ ∧
      ¬ unboundedFirst.tiers.Tightest 100 (unboundedFirst.tiers.select 100) := by
  have selected : unboundedFirst.tiers.select 100 = .ok ⟨none, .flat, 5⟩ := by decide +kernel
  refine ⟨by decide +kernel, selected, ?_⟩
  rw [selected]
  intro tightest
  cases tightest with
  | bounded _ bounded _ _ => cases bounded
  | unbounded _ _ exceeds =>
    exact absurd (exceeds 1000 (by decide +kernel)) (by decide +kernel)

end Validator

end SchoolFees

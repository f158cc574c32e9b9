/-
Reports that agree with themselves.

A record is made by one comparison, so its flag, its difference and its marker of a
missing side go together (`ReconciliationRecord.Coherent`).  Every record of a report is
such a comparison, whatever order the schools landed in and whether or not a cancel left
some of them out.

The rest follows from the records alone.  A mismatch exceeds the tolerance, and a
tolerance that passes its check is not below zero, so every mismatch adds to the total
discrepancy, and each of them more than the tolerance; without a mismatch it is zero.
-/
import Mathlib.Algebra.Order.BigOperators.Group.List
import SchoolFees.Proofs.Decimal.Worth
import SchoolFees.Proofs.Settlement.WholeBatch

namespace SchoolFees

/-! ### Records -/

/-- The flag, the difference and the marker of a record go together. -/
structure ReconciliationRecord.Coherent (tolerance : Decimal) (record : ReconciliationRecord) :
    Prop where
  diff : record.missing = none → record.diff = record.localTotal - record.remoteTotal
  /-- Two totals disagree when they differ by more than the tolerance. -/
  mismatched : record.missing = none → (record.mismatched = true ↔ tolerance < record.diff.abs)
  /-- Where a side is missing nothing is compared. -/
  uncompared : record.missing ≠ none → record.diff = 0 ∧ record.mismatched = false
  localMissing : record.missing = some .localSide ∨ record.missing = some .bothSides →
    record.localTotal = 0
  remoteMissing : record.missing = some .remoteSide ∨ record.missing = some .bothSides →
    record.remoteTotal = 0

/-- **Every comparison is coherent.** -/
theorem ReconciliationRecord.coherent_compare (school : School) (window : DateWindow)
    (tolerance : Decimal) (localTotal remoteTotal : Option Decimal) :
    (compare school window tolerance localTotal remoteTotal).Coherent tolerance := by
  cases localTotal with
  | none =>
    cases remoteTotal with
    | none => exact ⟨nofun, nofun, fun _ => ⟨rfl, rfl⟩, fun _ => rfl, fun _ => rfl⟩
    | some r =>
      refine ⟨nofun, nofun, fun _ => ⟨rfl, rfl⟩, fun _ => rfl, ?_⟩
      intro missing
      simp [compare] at missing
  | some l =>
    cases remoteTotal with
    | none =>
      refine ⟨nofun, nofun, fun _ => ⟨rfl, rfl⟩, ?_, fun _ => rfl⟩
      intro missing
      simp [compare] at missing
    | some r =>
      exact ⟨fun _ => rfl, fun _ => decide_eq_true_iff, fun missing => absurd rfl missing,
        by simp [compare], by simp [compare]⟩

/-! ### Reports -/

namespace ReconciliationReport

/-- The report does not contradict itself. -/
structure Coherent (tolerance : Decimal) (report : ReconciliationReport) : Prop where
  records : ∀ record ∈ report.records, record.Coherent tolerance
  /-- No record is told of both as a mismatch and as missing a side. -/
  apart : List.Disjoint report.mismatched report.missing
  hasMismatches : report.hasMismatches = true ↔ report.mismatched ≠ []
  /-- There is a discrepancy when there is a mismatch. -/
  discrepancy : report.mismatched ≠ [] ↔ 0 < report.totalDiscrepancy
  /-- Each mismatch has more than the tolerance of it. -/
  excess : report.mismatched ≠ [] →
    Decimal.ofInt report.mismatched.length * tolerance < report.totalDiscrepancy

variable {report : ReconciliationReport} {record : ReconciliationRecord} {tolerance : Decimal}

theorem mem_mismatched :
    record ∈ report.mismatched ↔ record ∈ report.records ∧ record.mismatched = true := by
  unfold mismatched
  rw [List.mem_filter]

theorem mem_missing :
    record ∈ report.missing ↔ record ∈ report.records ∧ record.missing ≠ none := by
  unfold missing
  rw [List.mem_filter, Option.isSome_iff_ne_none]

/-- What mismatches there are exceed the tolerance. -/
theorem lt_diff_of_mem_mismatched (coherent : ∀ record ∈ report.records, record.Coherent tolerance)
    (h : record ∈ report.mismatched) : tolerance.toRat < record.diff.abs.toRat := by
  obtain ⟨hmem, flagged⟩ := mem_mismatched.mp h
  have whole := coherent record hmem
  by_cases compared : record.missing = none
  · exact Decimal.lt_iff.mp ((whole.mismatched compared).mp flagged)
  · rw [(whole.uncompared compared).2] at flagged
    cases flagged

/-- All mismatches together exceed the tolerance as often as there are mismatches. -/
theorem lt_totalDiscrepancy (coherent : ∀ record ∈ report.records, record.Coherent tolerance)
    (h : report.mismatched ≠ []) :
    report.mismatched.length * tolerance.toRat < report.totalDiscrepancy.toRat := by
  have larger := List.sum_lt_sum_of_ne_nil h (fun _ => tolerance.toRat)
    (fun record => record.diff.abs.toRat) fun record hmem => lt_diff_of_mem_mismatched coherent hmem
  rw [List.map_const', List.sum_replicate, nsmul_eq_mul] at larger
  unfold totalDiscrepancy
  rw [Decimal.toRat_sum, List.map_map]
  exact larger

theorem coherent_of_records (nonneg : ¬ tolerance < 0)
    (coherent : ∀ record ∈ report.records, record.Coherent tolerance) :
    report.Coherent tolerance := by
  have floor : 0 ≤ tolerance.toRat := by
    have := Decimal.le_iff.mp (Decimal.not_lt_iff.mp nonneg)
    rwa [Decimal.toRat_ofNat, Nat.cast_zero] at this
  refine ⟨coherent, ?_, ?_, ?_, ?_⟩
  · intro record mismatched missing
    obtain ⟨hmem, flagged⟩ := mem_mismatched.mp mismatched
    rw [((coherent record hmem).uncompared (mem_missing.mp missing).2).2] at flagged
    cases flagged
  · unfold hasMismatches mismatched
    rw [List.any_eq_true, Ne, List.filter_eq_nil_iff]
    push Not
    rfl
  · refine ⟨?_, ?_⟩
    · intro h
      rw [Decimal.lt_iff, Decimal.toRat_ofNat, Nat.cast_zero]
      exact lt_of_le_of_lt (mul_nonneg (Nat.cast_nonneg _) floor) (lt_totalDiscrepancy coherent h)
    · intro positive empty
      unfold totalDiscrepancy at positive
      rw [empty] at positive
      exact absurd positive (by decide)
  · intro h
    rw [Decimal.lt_iff, Decimal.toRat_mul, Decimal.toRat_ofInt, Int.cast_natCast]
    exact lt_totalDiscrepancy coherent h

end ReconciliationReport

/-! ### Reports of reconciliations -/

namespace Reconciler

variable {r : Reconciler} {run : RunId} {window : DateWindow} {schools : List School}
  {order : List Nat} {cancelled : Bool} {report : ReconciliationReport}

/-- Every record of a report is the comparison of one of the schools. -/
theorem exists_school_of_mem_records (h : r.report run schools window order cancelled = .ok report)
    {record : ReconciliationRecord} (hmem : record ∈ report.records) :
    ∃ school ∈ schools, record = r.comparison window school := by
  obtain ⟨-, rfl⟩ := report_eq_ok.mp h
  obtain ⟨job, hcollect⟩ := Fanout.mem_inInputOrder.mp hmem
  obtain ⟨school, found, yields⟩ := Option.bind_eq_some_iff.mp (Fanout.mem_collect.mp hcollect).2
  obtain ⟨-, same⟩ := Option.ite_none_right_eq_some.mp yields
  exact ⟨school, List.mem_of_getElem? found, (Option.some.inj same).symm⟩

/-- **Every report is coherent**, also one that a cancel has cut short. -/
theorem coherent_of_report (nonneg : ¬ r.config.mismatchTolerance < 0)
    (h : r.report run schools window order cancelled = .ok report) :
    report.Coherent r.config.mismatchTolerance := by
  refine ReconciliationReport.coherent_of_records nonneg ?_
  intro record hmem
  obtain ⟨school, -, rfl⟩ := exists_school_of_mem_records h hmem
  exact ReconciliationRecord.coherent_compare _ _ _ _ _

end Reconciler

end SchoolFees

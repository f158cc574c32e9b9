/-
The two feeds exchanged.

Nothing in a reconciliation prefers one side.  A school is answered when both feeds are,
and it does not matter which of two failures comes first; the difference of two totals
changes its sign when they are exchanged, and its size stays.  So the comparison of any
two totals, present or missing, is the mirror image of the comparison of the exchanged
ones (`ReconciliationRecord.compare_exchanged`), and a report is mirrored record by record.

Differences are mirrored as they are written and not only in their worth, since both have
the wider of the two scales.
-/
import SchoolFees.Proofs.Settlement.WholeBatch

namespace SchoolFees

/-! ### Differences -/

namespace Decimal

variable (a b d : Decimal)

theorem neg_sub : -(a - b) = b - a := by
  show Decimal.neg (Decimal.sub a b) = Decimal.sub b a
  unfold Decimal.neg Decimal.sub
  rw [Int.max_comm b.scale a.scale, Int.neg_sub]

theorem abs_neg : (-d).abs = d.abs := by
  show (Decimal.neg d).abs = d.abs
  unfold Decimal.abs Decimal.neg
  rw [Int.natAbs_neg]

end Decimal

/-! ### Records -/

/-- The other side. -/
def MissingSide.exchanged : MissingSide → MissingSide
  | .localSide => .remoteSide
  | .remoteSide => .localSide
  | .bothSides => .bothSides

namespace ReconciliationRecord

/-- The record with the sides exchanged. -/
def exchanged (record : ReconciliationRecord) : ReconciliationRecord :=
  { record with
    localTotal := record.remoteTotal
    remoteTotal := record.localTotal
    diff := -record.diff
    missing := record.missing.map MissingSide.exchanged }

/-- **Comparing exchanged totals exchanges the sides of the record.** -/
theorem compare_exchanged (school : School) (window : DateWindow) (tolerance : Decimal)
    (localTotal remoteTotal : Option Decimal) :
    compare school window tolerance remoteTotal localTotal =
      (compare school window tolerance localTotal remoteTotal).exchanged := by
  cases localTotal with
  | none =>
    cases remoteTotal with
    | none => rfl
    | some r => rfl
  | some l =>
    cases remoteTotal with
    | none => rfl
    | some r =>
      unfold compare exchanged
      simp only [Decimal.neg_sub, Option.map_none]
      rw [← Decimal.neg_sub l r, Decimal.abs_neg]

end ReconciliationRecord

/-! ### Reports -/

namespace ReconciliationReport

/-- One report is the other with the sides exchanged in every record. -/
structure Mirrors (report report' : ReconciliationReport) : Prop where
  cancelled : report'.cancelled = report.cancelled
  /-- The records stand in the same order. -/
  records : report'.records = report.records.map ReconciliationRecord.exchanged
  /-- The same schools are skipped, with as many entries each. -/
  skipped : report'.skipped.Perm report.skipped
  hasMismatches : report'.hasMismatches = report.hasMismatches
  totalDiscrepancy : report'.totalDiscrepancy = report.totalDiscrepancy

variable {report report' : ReconciliationReport}

/-- Flags and sizes of differences are the same in mirrored records, so what is made of them is. -/
theorem mirrors_of_records (cancelled : report'.cancelled = report.cancelled)
    (records : report'.records = report.records.map ReconciliationRecord.exchanged)
    (skipped : report'.skipped.Perm report.skipped) : report.Mirrors report' := by
  refine ⟨cancelled, records, skipped, ?_, ?_⟩
  · unfold hasMismatches
    rw [records, List.any_map]
    rfl
  · unfold totalDiscrepancy mismatched
    rw [records, List.filter_map, List.map_map]
    congr 1
    refine List.map_congr_left fun record _ => ?_
    exact Decimal.abs_neg record.diff

end ReconciliationReport

namespace Reconciler

variable {r : Reconciler} {run run' : RunId} {window : DateWindow} {schools : List School}
  {report report' : ReconciliationReport}

/-- The reconciler with the feeds exchanged. -/
def exchanged (r : Reconciler) : Reconciler := ⟨r.config, r.remoteFeed, r.localFeed⟩

theorem answered_exchanged {school : School} :
    r.exchanged.Answered school ↔ r.Answered school :=
  and_congr_right fun _ => and_comm

theorem comparison_exchanged (school : School) :
    r.exchanged.comparison window school = (r.comparison window school).exchanged :=
  ReconciliationRecord.compare_exchanged _ _ _ _ _

theorem record?_exchanged (school : School) :
    r.exchanged.record? window school =
      (r.record? window school).map ReconciliationRecord.exchanged := by
  unfold record?
  by_cases answered : r.Answered school
  · rw [if_pos answered, if_pos (answered_exchanged.mpr answered), comparison_exchanged]
    rfl
  · rw [if_neg answered, if_neg (mt answered_exchanged.mp answered)]
    rfl

/-- Each position yields the mirror image of its record, or no record either way. -/
theorem recordAt?_exchanged (i : Nat) :
    r.exchanged.recordAt? window schools i =
      (r.recordAt? window schools i).map ReconciliationRecord.exchanged := by
  unfold recordAt?
  cases schools[i]? with
  | none => rfl
  | some school => exact record?_exchanged school

/-- The records of a report that is complete are what the positions yield, along the input. -/
theorem Complete.records_eq (h : r.Complete schools window report) :
    report.records = (List.range schools.length).filterMap (r.recordAt? window schools) := by
  rw [h.records, ← filterMap_record?]
  exact (Fanout.filterMap_getElem?_range _ _).symm

theorem Complete.mirrors (h : r.Complete schools window report)
    (h' : r.exchanged.Complete schools window report') : report.Mirrors report' := by
  refine ReconciliationReport.mirrors_of_records (h'.uncut.trans h.uncut.symm) ?_ ?_
  · rw [h.records_eq, h'.records_eq, List.map_filterMap]
    exact List.filterMap_congr fun i _ => recordAt?_exchanged i
  · have same : schools.filter (¬ r.exchanged.Answered ·) = schools.filter (¬ r.Answered ·) :=
      List.filter_congr fun school _ => decide_eq_decide.mpr (not_congr answered_exchanged)
    have skipped := h'.skipped
    rw [same] at skipped
    exact skipped.trans h.skipped.symm

/--
**The two feeds are treated alike.**  Exchange the feeds, and the batch is reconciled
again; each position of the input that had a record has its mirror image, and no other
position has one.  Whatever the schedules of the two runs, the records stand in the same
order, the same schools are skipped, and there are mismatches by the same amount.
-/
theorem reconcile_exchanged (config : Config) (valid : config.check = .ok ())
    (localFeed remoteFeed : Feed) (window : DateWindow) (schools : List School)
    (nonempty : schools ≠ []) :
    ∃ r r', create config localFeed remoteFeed = .ok r ∧
      create config remoteFeed localFeed = .ok r' ∧
      (∀ run, (∃ report, r.reconcile run schools window = .ok report ∧
          r.Possible run schools window report) ∧
        ∃ report', r'.reconcile run schools window = .ok report' ∧
          r'.Possible run schools window report') ∧
      (∀ i, r'.recordAt? window schools i =
        (r.recordAt? window schools i).map ReconciliationRecord.exchanged) ∧
      ∀ run run' report report', r.Possible run schools window report →
        r'.Possible run' schools window report' →
        report.records = (List.range schools.length).filterMap (r.recordAt? window schools) ∧
          report'.records = (List.range schools.length).filterMap (r'.recordAt? window schools) ∧
          report.Mirrors report' := by
  have width : config.maxConcurrency ≠ 0 := (Config.check_eq_ok.mp valid).2.1
  refine ⟨⟨config, localFeed, remoteFeed⟩, ⟨config, remoteFeed, localFeed⟩,
    create_eq_ok.mpr ⟨valid, rfl⟩, create_eq_ok.mpr ⟨valid, rfl⟩, ?_, ?_, ?_⟩
  · intro run
    exact ⟨exists_reconcile width run nonempty window, exists_reconcile width run nonempty window⟩
  · intro i
    exact @recordAt?_exchanged ⟨config, localFeed, remoteFeed⟩ window schools i
  · intro run run' report report' possible possible'
    have complete := complete_of_possible possible
    have complete' := complete_of_possible possible'
    exact ⟨complete.records_eq, complete'.records_eq, complete.mirrors complete'⟩

/-- One school is compared, with the difference `-1` and then `1`; the other two are skipped both
times, one for the refusal of a feed and one for its delay. -/
theorem reconcile_exchanged_refusing_and_slow :
    (Config.mk "pg" 0 2 ⟨999⟩ 0).check = .ok () ∧
      ∃ r r' report report', create ⟨"pg", 0, 2, ⟨999⟩, 0⟩ refusingFeed slowFeed = .ok r ∧
        create ⟨"pg", 0, 2, ⟨999⟩, 0⟩ slowFeed refusingFeed = .ok r' ∧
        r.reconcile ⟨"run-0"⟩ [⟨"b", "t"⟩, ⟨"a", "t"⟩, ⟨"c", "t"⟩]
          (.day ⟨2024, 1, 1, by decide⟩) = .ok report ∧
        r'.reconcile ⟨"run-0"⟩ [⟨"b", "t"⟩, ⟨"a", "t"⟩, ⟨"c", "t"⟩]
          (.day ⟨2024, 1, 1, by decide⟩) = .ok report' ∧
        report.records.map (·.diff) = [-1] ∧ report'.records.map (·.diff) = [1] ∧
        report.Mirrors report' := by
  have valid : (Config.mk "pg" 0 2 ⟨999⟩ 0).check = .ok () := Config.check_eq_ok.mpr (by decide)
  obtain ⟨r, r', created, created', reconciled, -, mirrored⟩ :=
    reconcile_exchanged ⟨"pg", 0, 2, ⟨999⟩, 0⟩ valid refusingFeed slowFeed
      (.day ⟨2024, 1, 1, by decide⟩) [⟨"b", "t"⟩, ⟨"a", "t"⟩, ⟨"c", "t"⟩] (by decide)
  obtain ⟨⟨report, answered, possible⟩, report', answered', possible'⟩ := reconciled ⟨"run-0"⟩
  obtain ⟨records, records', mirrors⟩ := mirrored _ _ report report' possible possible'
  obtain ⟨-, rfl⟩ := create_eq_ok.mp created
  obtain ⟨-, rfl⟩ := create_eq_ok.mp created'
  refine ⟨valid, _, _, report, report', created, created', answered, answered', ?_, ?_, mirrors⟩
  · rw [records]
    decide
  · rw [records']
    decide

end Reconciler

end SchoolFees

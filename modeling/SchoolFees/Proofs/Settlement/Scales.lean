/-
Reconciliations of totals that are written at other scales.

Two feeds are equal when they refuse and delay alike and have totals that are worth the
same.  A comparison subtracts two totals and holds the size of the difference against the
tolerance, so equal totals bring equal records, with the same flag and the same missing
side (`ReconciliationRecord.compare_equal`).

A call to a feed takes its time whatever the total is.  So the clock brings about the same
landing order on both sides, and the reports are equal to the order of their skips
(`Equal.reconcileUntil_rel`).  Under two different schedules the records are still equal
one by one, and the same schools are skipped.
-/
import SchoolFees.Proofs.Commission.Scales
import SchoolFees.Proofs.Settlement.Exchange

namespace SchoolFees

/-! ### Feeds -/

namespace Feed

/-- The same feed, with totals that are worth the same. -/
structure Equal (f f' : Feed) : Prop where
  totals : ∀ schoolId, Option.Rel (· ≈ ·) (f.totals.get? schoolId) (f'.totals.get? schoolId)
  failing : f.failing = f'.failing
  delays : f.delays = f'.delays

theorem Equal.total_rel {f f' : Feed} (h : f.Equal f') (schoolId : String) :
    Call.Rel (Option.Rel (· ≈ ·)) (f.total schoolId) (f'.total schoolId) := by
  unfold total
  rw [h.failing, h.delays]
  split
  · exact .refuse _
  · exact ⟨.ok (h.totals schoolId), rfl⟩

end Feed

/-! ### Records and reports -/

/-- What two functions yield along one list is related item by item. -/
theorem filterMap_rel {α β γ : Type} {R : β → γ → Prop} {items : List α} {f : α → Option β}
    {g : α → Option γ} (h : ∀ a, Option.Rel R (f a) (g a)) :
    List.Forall₂ R (items.filterMap f) (items.filterMap g) := by
  refine List.rel_filterMap ?_ (List.forall₂_same.mpr fun _ _ => rfl)
  rintro a _ rfl
  exact h a

namespace ReconciliationRecord

/-- The same record, with totals that are worth the same. -/
structure Equal (record record' : ReconciliationRecord) : Prop where
  school : record.school = record'.school
  window : record.window = record'.window
  localTotal : record.localTotal ≈ record'.localTotal
  remoteTotal : record.remoteTotal ≈ record'.remoteTotal
  mismatched : record.mismatched = record'.mismatched
  diff : record.diff ≈ record'.diff
  missing : record.missing = record'.missing

/-- **Equal totals bring equal records**, under equal tolerances. -/
theorem compare_equal (school : School) (window : DateWindow) {tolerance tolerance' : Decimal}
    (tolerances : tolerance ≈ tolerance') {l l' r r' : Option Decimal}
    (locals : Option.Rel (· ≈ ·) l l') (remotes : Option.Rel (· ≈ ·) r r') :
    (compare school window tolerance l r).Equal (compare school window tolerance' l' r') := by
  have zero := Decimal.equiv_refl 0
  cases locals with
  | none =>
    cases remotes with
    | none => exact ⟨rfl, rfl, zero, zero, rfl, zero, rfl⟩
    | some remotes => exact ⟨rfl, rfl, zero, remotes, rfl, zero, rfl⟩
  | some locals =>
    cases remotes with
    | none => exact ⟨rfl, rfl, locals, zero, rfl, zero, rfl⟩
    | some remotes =>
      have diffs := Decimal.sub_congr locals remotes
      have flags := Decimal.lt_congr tolerances (Decimal.abs_congr diffs)
      exact ⟨rfl, rfl, locals, remotes, decide_eq_decide.mpr flags, diffs, rfl⟩

end ReconciliationRecord

/-- The same report, with records that are equal one by one. -/
structure ReconciliationReport.Equal (report report' : ReconciliationReport) : Prop where
  run : report.run = report'.run
  writtenAt : report.writtenAt = report'.writtenAt
  window : report.window = report'.window
  records : List.Forall₂ ReconciliationRecord.Equal report.records report'.records
  skipped : report.skipped = report'.skipped
  cancelled : report.cancelled = report'.cancelled

namespace Reconciler

/-- Reconcilers that work from what is equal. -/
structure Equal (r r' : Reconciler) : Prop where
  config : r.config.Equal r'.config
  localFeed : r.localFeed.Equal r'.localFeed
  remoteFeed : r.remoteFeed.Equal r'.remoteFeed

variable {r r' : Reconciler} {window : DateWindow} {schools : List School}

/-! ### One school -/

theorem Equal.totals_rel (h : r.Equal r') (schoolId : String) :
    Call.Rel (fun p q => Option.Rel (· ≈ ·) p.1 q.1 ∧ Option.Rel (· ≈ ·) p.2 q.2)
      (r.totals schoolId) (r'.totals schoolId) := by
  unfold totals
  rw [← h.config.callTimeout]
  exact ((h.localFeed.total_rel schoolId).within _).both
    ((h.remoteFeed.total_rel schoolId).within _)

/-- A school is compared on both sides, or fails for the same reason, and after the same time. -/
theorem Equal.reconcileSchool_rel (h : r.Equal r') (window : DateWindow) (school : School) :
    Call.Rel ReconciliationRecord.Equal (r.reconcileSchool window school)
      (r'.reconcileSchool window school) := by
  unfold reconcileSchool
  cases checkIdentifier school.id with
  | error e => exact .refuse _
  | ok _ =>
    refine (h.totals_rel school.id).andThen fun _ _ answers => ?_
    cases answers with
    | error same =>
      cases same
      exact .error rfl
    | ok totals =>
      exact .ok (ReconciliationRecord.compare_equal school window h.config.mismatchTolerance
        totals.1 totals.2)

theorem Equal.answered_iff (h : r.Equal r') (school : School) :
    r.Answered school ↔ r'.Answered school := by
  unfold Answered Feed.Answers
  rw [h.config.callTimeout, h.localFeed.failing, h.localFeed.delays, h.remoteFeed.failing,
    h.remoteFeed.delays]

theorem Equal.comparison_equal (h : r.Equal r') (window : DateWindow) (school : School) :
    (r.comparison window school).Equal (r'.comparison window school) :=
  ReconciliationRecord.compare_equal school window h.config.mismatchTolerance
    (h.localFeed.totals school.id) (h.remoteFeed.totals school.id)

/-- A position yields a record on both sides, or on neither. -/
theorem Equal.recordAt?_rel (h : r.Equal r') (window : DateWindow) (schools : List School)
    (i : Nat) :
    Option.Rel ReconciliationRecord.Equal (r.recordAt? window schools i)
      (r'.recordAt? window schools i) := by
  unfold recordAt?
  cases schools[i]? with
  | none => exact .none
  | some school =>
    show Option.Rel _ (r.record? window school) (r'.record? window school)
    unfold record?
    by_cases answered : r.Answered school
    · rw [if_pos answered, if_pos ((h.answered_iff school).mp answered)]
      exact .some (h.comparison_equal window school)
    · rw [if_neg answered, if_neg (mt (h.answered_iff school).mpr answered)]
      exact .none

theorem Equal.skip?_eq (h : r.Equal r') : r.skip? = r'.skip? := by
  funext school
  unfold skip?
  simp only [h.answered_iff school]

/-! ### A batch -/

/-- Schools that land in one order are reported on equally. -/
theorem Equal.report_rel (h : r.Equal r') (run : RunId) {order : List Nat}
    (feasible : Fanout.Feasible r.config.maxConcurrency schools.length order) (cancelled : Bool) :
    Outcome.Rel FeeError.Equal ReconciliationReport.Equal
      (r.report run schools window order cancelled)
      (r'.report run schools window order cancelled) := by
  by_cases empty : schools = []
  · subst empty
    exact .error rfl
  · rw [report_eq_ok.mpr ⟨empty, rfl⟩, report_eq_ok.mpr ⟨empty, rfl⟩]
    have nodup := (Fanout.feasible_iff.mp feasible).1
    have bound : ∀ job ∈ order, job < schools.length :=
      fun _ hjob => Fanout.lt_of_feasible feasible hjob
    have records : List.Forall₂ ReconciliationRecord.Equal
        (Fanout.inInputOrder (Fanout.collect (r.recordAt? window schools) order))
        (Fanout.inInputOrder (Fanout.collect (r'.recordAt? window schools) order)) := by
      rw [Fanout.inInputOrder_collect nodup bound, Fanout.inInputOrder_collect nodup bound]
      exact filterMap_rel fun i => h.recordAt?_rel window schools i
    have skipped : order.filterMap (r.skipAt? schools) = order.filterMap (r'.skipAt? schools) := by
      unfold skipAt?
      rw [h.skip?_eq]
    exact .ok ⟨rfl, rfl, rfl, records, skipped, rfl⟩

/-- The calls take the same time on both sides, so the schools land in the same order. -/
theorem Equal.clockOrder_eq (h : r.Equal r') (schools : List School) (window : DateWindow)
    (cancelAt : Option Nat) :
    r.clockOrder schools window cancelAt = r'.clockOrder schools window cancelAt := by
  unfold clockOrder
  rw [h.config.maxConcurrency]
  congr 1
  exact List.map_congr_left fun school _ => (h.reconcileSchool_rel window school).elapsed

/-- **By the clock, reports are equal to the order of their skips**, with or without a cancel. -/
theorem Equal.reconcileUntil_rel (h : r.Equal r') (width : r.config.maxConcurrency ≠ 0)
    (run : RunId) (schools : List School) (window : DateWindow) (cancelAt : Option Nat) :
    Outcome.Rel FeeError.Equal ReconciliationReport.Equal
      (r.reconcileUntil run schools window cancelAt)
      (r'.reconcileUntil run schools window cancelAt) := by
  unfold reconcileUntil
  rw [← h.clockOrder_eq]
  exact h.report_rel run (feasible_clockOrder width schools window cancelAt) _

theorem create_reconcileUntil_rel {config config' : Config} {f f' g g' : Feed}
    (configs : config.Equal config') (locals : f.Equal f') (remotes : g.Equal g') (run : RunId)
    (schools : List School) (window : DateWindow) (cancelAt : Option Nat) :
    Outcome.Rel FeeError.Equal ReconciliationReport.Equal
      (create config f g >>= (·.reconcileUntil run schools window cancelAt))
      (create config' f' g' >>= (·.reconcileUntil run schools window cancelAt)) := by
  have checks := Config.check_of_equal configs
  have reconcilers : Equal ⟨config, f, g⟩ ⟨config', f', g'⟩ := ⟨configs, locals, remotes⟩
  cases valid : config.check with
  | ok _ =>
    have width := (Config.check_eq_ok.mp valid).2.1
    rw [create_eq_ok.mpr ⟨valid, rfl⟩, create_eq_ok.mpr ⟨checks.symm.trans valid, rfl⟩]
    exact reconcilers.reconcileUntil_rel width run schools window cancelAt
  | error e =>
    unfold create
    rw [← checks, valid]
    exact .error rfl

/-- Under two schedules, the records are equal and the same schools are skipped. -/
theorem Equal.agree_of_possible (h : r.Equal r') {run run' : RunId}
    {report report' : ReconciliationReport} (possible : r.Possible run schools window report)
    (possible' : r'.Possible run' schools window report') :
    List.Forall₂ ReconciliationRecord.Equal report.records report'.records ∧
      report.skipped.Perm report'.skipped := by
  have complete := complete_of_possible possible
  have complete' := complete_of_possible possible'
  refine ⟨?_, ?_⟩
  · rw [complete.records_eq, complete'.records_eq]
    exact filterMap_rel fun i => h.recordAt?_rel window schools i
  · have same : schools.filter (¬ r'.Answered ·) = schools.filter (¬ r.Answered ·) := by
      simp only [h.answered_iff]
    have skipped := complete'.skipped
    rw [same] at skipped
    exact complete.skipped.trans skipped.symm

end Reconciler

end SchoolFees

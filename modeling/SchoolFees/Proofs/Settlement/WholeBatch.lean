/-
The report on a batch that is worked off.

Nothing of the schedule is left in such a report but the order of its skips.  Every
position has landed once, so the records are what the positions yield, read along the
input, and the skips are what they yield, read along the landing order
(`complete_of_possible`).  Neither the bound on how many schools are worked on at once
nor what the feeds say about some other school has a part in what a position yields.

The clock is one of the schedules: `Fanout.clockOrder_feasible` makes the order that the
feeds' delays bring about one of those that the width allows.
-/
import SchoolFees.Proofs.Fanout.Clock
import SchoolFees.Proofs.Settlement.Schools

namespace SchoolFees

/-- The two feeds say the same, in the same time, about every other school. -/
def Feed.AgreesExcept (schoolId : String) (f g : Feed) : Prop :=
  ∀ id, id ≠ schoolId →
    g.totals.get? id = f.totals.get? id ∧ (id ∈ g.failing ↔ id ∈ f.failing) ∧
      g.delays.get? id = f.delays.get? id

theorem Feed.answers_of_agreesExcept {schoolId id : String} {f g : Feed} {limit : Duration}
    (h : f.AgreesExcept schoolId g) (other : id ≠ schoolId) :
    g.Answers limit id ↔ f.Answers limit id := by
  obtain ⟨-, hfailing, hdelay⟩ := h id other
  unfold Feed.Answers
  rw [hfailing, hdelay]

namespace Reconciler

variable {r r' : Reconciler} {run : RunId} {window : DateWindow} {schools : List School}
  {order : List Nat} {report report' : ReconciliationReport}

/-- The report is one that the batch may have without a cancel, its schools landing in any order
that the bound on concurrency allows. -/
def Possible (r : Reconciler) (run : RunId) (schools : List School) (window : DateWindow)
    (report : ReconciliationReport) : Prop :=
  ∃ order, Fanout.Feasible r.config.maxConcurrency schools.length order ∧
    order.length = schools.length ∧ r.report run schools window order false = .ok report

/-- What the report on a batch says when every school has landed. -/
structure Complete (r : Reconciler) (schools : List School) (window : DateWindow)
    (report : ReconciliationReport) : Prop where
  uncut : report.cancelled = false
  /-- The schools that are answered are compared, in input order. -/
  records : report.records = (schools.filter (r.Answered ·)).map (r.comparison window)
  /-- The other schools are skipped, with one entry for each position. -/
  skipped : report.skipped.Perm ((schools.filter (¬ r.Answered ·)).map (·.id))

/-! ### What the positions yield -/

theorem filterMap_record? :
    schools.filterMap (r.record? window) =
      (schools.filter (r.Answered ·)).map (r.comparison window) := by
  induction schools with
  | nil => rfl
  | cons school rest ih =>
    by_cases h : r.Answered school
    · simp [record?, h, ih]
    · simp [record?, h, ih]

theorem filterMap_skip? :
    schools.filterMap r.skip? = (schools.filter (¬ r.Answered ·)).map (·.id) := by
  induction schools with
  | nil => rfl
  | cons school rest ih =>
    by_cases h : r.Answered school
    · simp [skip?, h, ih]
    · simp [skip?, h, ih]

/-- **Every report that a batch may have is complete.** -/
theorem complete_of_possible (h : r.Possible run schools window report) :
    r.Complete schools window report := by
  obtain ⟨order, feasible, whole, hreport⟩ := h
  obtain ⟨-, rfl⟩ := report_eq_ok.mp hreport
  have hall : order.Perm (List.range schools.length) :=
    Fanout.perm_range_of_feasible feasible whole
  refine ⟨rfl, ?_, ?_⟩
  · show Fanout.inInputOrder (Fanout.collect (r.recordAt? window schools) order) = _
    rw [Fanout.inInputOrder_collect_of_complete hall, ← filterMap_record?]
    exact Fanout.filterMap_getElem?_range _ _
  · show (order.filterMap (r.skipAt? schools)).Perm _
    refine (hall.filterMap _).trans ?_
    rw [← filterMap_skip?]
    exact .of_eq (Fanout.filterMap_getElem?_range _ _)

/-- Schools land by the clock in an order that the bound on concurrency allows. -/
theorem feasible_clockOrder (width : r.config.maxConcurrency ≠ 0) (schools : List School)
    (window : DateWindow) (cancelAt : Option Nat) :
    Fanout.Feasible r.config.maxConcurrency schools.length
      (r.clockOrder schools window cancelAt) := by
  have hclock : Fanout.Feasible r.config.maxConcurrency
      (schools.map fun school => (r.reconcileSchool window school).elapsed).length
      (r.clockOrder schools window cancelAt) :=
    Fanout.clockOrder_feasible (Nat.pos_of_ne_zero width)
  rwa [List.length_map] at hclock

theorem length_clockOrder : (r.clockOrder schools window none).length = schools.length := by
  unfold clockOrder
  rw [Fanout.length_clockOrder_none, List.length_map]

theorem exists_reconcile (width : r.config.maxConcurrency ≠ 0) (run : RunId)
    (nonempty : schools ≠ []) (window : DateWindow) :
    ∃ report, r.reconcile run schools window = .ok report ∧
      r.Possible run schools window report := by
  have uncut : decide ((r.clockOrder schools window none).length < schools.length) = false :=
    decide_eq_false (Nat.not_lt.mpr (Nat.le_of_eq length_clockOrder.symm))
  refine ⟨_, report_eq_ok.mpr ⟨nonempty, rfl⟩, r.clockOrder schools window none, ?_, ?_, ?_⟩
  · exact feasible_clockOrder width schools window none
  · exact length_clockOrder
  · rw [uncut]
    exact report_eq_ok.mpr ⟨nonempty, rfl⟩

/-! ### What has no part in it -/

theorem school_comparison (school : School) : (r.comparison window school).school = school := by
  unfold comparison
  generalize r.localFeed.totals.get? school.id = localTotal
  generalize r.remoteFeed.totals.get? school.id = remoteTotal
  cases localTotal <;> cases remoteTotal <;> rfl

/-- Complete reports agree on the schools about which the same is known. -/
theorem Complete.agree_on (keep : String → Bool) (h : r.Complete schools window report)
    (h' : r'.Complete schools window report')
    (answered : ∀ school, keep school.id → (r'.Answered school ↔ r.Answered school))
    (comparison : ∀ school, keep school.id →
      r'.comparison window school = r.comparison window school) :
    report'.records.filter (fun record => keep record.school.id) =
        report.records.filter (fun record => keep record.school.id) ∧
      (report'.skipped.filter keep).Perm (report.skipped.filter keep) := by
  have hkeep : ∀ q : Reconciler, ((fun record : ReconciliationRecord => keep record.school.id) ∘
      q.comparison window) = fun school => keep school.id := by
    intro q
    funext school
    rw [Function.comp_apply, school_comparison]
  refine ⟨?_, ?_⟩
  · rw [h.records, h'.records, List.filter_map, List.filter_map, hkeep, hkeep,
      List.filter_filter, List.filter_filter]
    have hsame : schools.filter (fun school => keep school.id && decide (r'.Answered school)) =
        schools.filter (fun school => keep school.id && decide (r.Answered school)) := by
      refine List.filter_congr fun school _ => ?_
      by_cases hschool : keep school.id
      · rw [decide_eq_decide.mpr (answered school hschool)]
      · simp [hschool]
    rw [hsame]
    refine List.map_congr_left fun school hmem => comparison school ?_
    have hboth := (List.mem_filter.mp hmem).2
    exact (Bool.and_eq_true_iff.mp hboth).1
  · refine (h'.skipped.filter keep).trans (.trans (.of_eq ?_) (h.skipped.filter keep).symm)
    rw [List.filter_map, List.filter_map, List.filter_filter, List.filter_filter]
    congr 1
    refine List.filter_congr fun school _ => ?_
    by_cases hschool : keep school.id
    · rw [decide_eq_decide.mpr (not_congr (answered school hschool))]
    · simp [hschool]

/-- How many schools are worked on at once leaves its trace in the order of the skips only. -/
theorem Complete.agree_of_concurrency {concurrency : Nat} (h : r.Complete schools window report)
    (h' : Complete { r with config := { r.config with maxConcurrency := concurrency } } schools
      window report') :
    report'.records = report.records ∧ report'.skipped.Perm report.skipped := by
  have hagree := h.agree_on (fun _ => true) h' (fun _ _ => .rfl) (fun _ _ => rfl)
  simpa only [List.filter_true] using hagree

/-- What the feeds say about one school leaves the entries of the others alone. -/
theorem Complete.agree_elsewhere {schoolId : String} {localFeed remoteFeed : Feed}
    (h : r.Complete schools window report)
    (h' : Complete ⟨r.config, localFeed, remoteFeed⟩ schools window report')
    (hlocal : r.localFeed.AgreesExcept schoolId localFeed)
    (hremote : r.remoteFeed.AgreesExcept schoolId remoteFeed) :
    report'.records.filter (·.school.id ≠ schoolId) =
        report.records.filter (·.school.id ≠ schoolId) ∧
      (report'.skipped.filter (· ≠ schoolId)).Perm (report.skipped.filter (· ≠ schoolId)) := by
  refine h.agree_on (fun id => decide (id ≠ schoolId)) h' ?_ ?_
  · intro school other
    have hother : school.id ≠ schoolId := of_decide_eq_true other
    unfold Answered
    rw [Feed.answers_of_agreesExcept hlocal hother, Feed.answers_of_agreesExcept hremote hother]
  · intro school other
    have hother : school.id ≠ schoolId := of_decide_eq_true other
    unfold Reconciler.comparison
    rw [(hlocal _ hother).1, (hremote _ hother).1]

/-! ### The reconciliation of a batch -/

theorem create_eq_ok {config : Config} {localFeed remoteFeed : Feed} :
    create config localFeed remoteFeed = .ok r ↔
      config.check = .ok () ∧ r = ⟨config, localFeed, remoteFeed⟩ := by
  unfold create
  rw [Outcome.bind_eq_ok]
  refine ⟨?_, ?_⟩
  · intro h
    obtain ⟨u, valid, hr⟩ := h
    exact ⟨valid, (Except.ok.inj hr).symm⟩
  · intro h
    obtain ⟨valid, rfl⟩ := h
    exact ⟨(), valid, rfl⟩

/--
**What a reconciliation reports.**  It always reports, by the clock and by every other
schedule, and every report it may have is complete: it holds the comparisons of the
schools that are answered, in input order, and skips the others, one entry for each
position.  Two such reports differ in the order of their skips only, also when the
bounds on concurrency differ; and when the feeds are changed for one school, the entries
of all other schools stay.
-/
theorem reconcile_outcome (config : Config) (valid : config.check = .ok ())
    (localFeed remoteFeed : Feed) (run : RunId) (window : DateWindow) (schools : List School)
    (nonempty : schools ≠ []) :
    ∃ r, create config localFeed remoteFeed = .ok r ∧
      (∃ report, r.reconcile run schools window = .ok report ∧
        r.Possible run schools window report) ∧
      (∀ order, Fanout.Feasible config.maxConcurrency schools.length order →
        order.length = schools.length →
        ∃ report, r.report run schools window order false = .ok report) ∧
      (∀ report, r.Possible run schools window report → r.Complete schools window report) ∧
      (∀ concurrency, concurrency ≠ 0 →
        ∃ r', create { config with maxConcurrency := concurrency } localFeed remoteFeed = .ok r' ∧
          ∀ report report', r.Possible run schools window report →
            r'.Possible run schools window report' →
            report'.records = report.records ∧ report'.skipped.Perm report.skipped) ∧
      ∀ schoolId localFeed' remoteFeed', localFeed.AgreesExcept schoolId localFeed' →
        remoteFeed.AgreesExcept schoolId remoteFeed' →
        ∃ r', create config localFeed' remoteFeed' = .ok r' ∧
          ∀ report report', r.Possible run schools window report →
            r'.Possible run schools window report' →
            report'.records.filter (·.school.id ≠ schoolId) =
                report.records.filter (·.school.id ≠ schoolId) ∧
              (report'.skipped.filter (· ≠ schoolId)).Perm
                (report.skipped.filter (· ≠ schoolId)) := by
  obtain ⟨gateway, width, timeout, rate, tolerance⟩ := Config.check_eq_ok.mp valid
  refine ⟨_, create_eq_ok.mpr ⟨valid, rfl⟩, exists_reconcile width run nonempty window,
    ?_, ?_, ?_, ?_⟩
  · intro order _ _
    exact ⟨_, report_eq_ok.mpr ⟨nonempty, rfl⟩⟩
  · intro report possible
    exact complete_of_possible possible
  · intro concurrency width'
    have valid' : { config with maxConcurrency := concurrency }.check = .ok () :=
      Config.check_eq_ok.mpr ⟨gateway, width', timeout, rate, tolerance⟩
    refine ⟨_, create_eq_ok.mpr ⟨valid', rfl⟩, ?_⟩
    intro report report' possible possible'
    exact (complete_of_possible possible).agree_of_concurrency (complete_of_possible possible')
  · intro schoolId localFeed' remoteFeed' hlocal hremote
    refine ⟨_, create_eq_ok.mpr ⟨valid, rfl⟩, ?_⟩
    intro report report' possible possible'
    exact (complete_of_possible possible).agree_elsewhere (complete_of_possible possible')
      hlocal hremote

/-- A feed that refuses to answer about `b`. -/
def refusingFeed : Feed := ((Feed.empty.setTotal "a" 1).setTotal "b" 1).failFor "b"

/-- A feed that takes a second to answer about `c`. -/
def slowFeed : Feed := (Feed.empty.setTotal "a" 2).delayFor "c" 1000

/-- Of three schools one is compared and the other two are skipped. -/
theorem reconcile_outcome_of_refusing_and_slow :
    (Config.mk "pg" 0 2 ⟨999⟩ 0).check = .ok () ∧
      ∃ r, create ⟨"pg", 0, 2, ⟨999⟩, 0⟩ refusingFeed slowFeed = .ok r ∧
        ∃ report, r.reconcile ⟨"run-0"⟩ [⟨"b", "t"⟩, ⟨"a", "t"⟩, ⟨"c", "t"⟩]
            (.day ⟨2024, 1, 1, by decide⟩) = .ok report ∧
          report.records.map (·.diff) = [-1] ∧ report.skipped.Perm ["b", "c"] := by
  have valid : (Config.mk "pg" 0 2 ⟨999⟩ 0).check = .ok () := Config.check_eq_ok.mpr (by decide)
  refine ⟨valid, ?_⟩
  obtain ⟨r, created, ⟨report, hreport, possible⟩, -, complete, -⟩ :=
    reconcile_outcome ⟨"pg", 0, 2, ⟨999⟩, 0⟩ valid refusingFeed slowFeed ⟨"run-0"⟩
      (.day ⟨2024, 1, 1, by decide⟩) [⟨"b", "t"⟩, ⟨"a", "t"⟩, ⟨"c", "t"⟩] (by decide)
  have hwhole := complete report possible
  obtain ⟨-, rfl⟩ := create_eq_ok.mp created
  refine ⟨_, created, report, hreport, ?_, ?_⟩
  · rw [hwhole.records]
    decide
  · refine hwhole.skipped.trans (.of_eq ?_)
    decide

end Reconciler

end SchoolFees

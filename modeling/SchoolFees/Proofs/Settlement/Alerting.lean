/-
Alerts, and the reports that call for them.

An alert is sent when its report has something to tell: a mismatch, a gap, or a group of
duplicates under some key.  Whoever sends alerts one after another learns of each whether
it was sent, and the sink holds those that were, one behind the other and as they were
sent.  One alert adds itself or nothing to the sink (`AlertSink.tryNotify_cases`), and the
law of a series is by induction on it.

A sink that refuses keeps nothing, and says so.  The ones that matter are those that do not
refuse: there the sink holds exactly the alerts that were called for.
-/
import SchoolFees.Proofs.Settlement.Coherence
import SchoolFees.Settlement.Alerts

namespace SchoolFees

/-! ### What calls for an alert -/

namespace Alert

/-- The report has something to tell. -/
def Warranted : Alert → Prop
  | .mismatches report => ∃ record ∈ report.records, record.mismatched = true
  | .settlementGaps report => ∃ gap, gap ∈ report.gaps
  | .duplicates report =>
    ∃ groups ∈ [report.byEmail, report.byClientId, report.byPriceKey], ∃ group, group ∈ groups

theorem isCalledFor_iff (alert : Alert) : alert.isCalledFor = true ↔ alert.Warranted := by
  cases alert with
  | mismatches report =>
    show report.records.any (·.mismatched) = true ↔ _
    rw [List.any_eq_true]
    exact Iff.rfl
  | settlementGaps report =>
    show (!report.gaps.isEmpty) = true ↔ ∃ gap, gap ∈ report.gaps
    rw [Bool.not_eq_true', List.isEmpty_eq_false_iff_exists_mem]
  | duplicates report =>
    show (!report.isEmpty) = true ↔ _
    simp only [DuplicateReport.isEmpty, Warranted, Bool.not_eq_true', Bool.and_eq_false_iff,
      List.isEmpty_eq_false_iff_exists_mem, List.exists_mem_cons_iff, List.not_mem_nil,
      false_and, exists_false, or_false, or_assoc]

/-- The alerts of a series that were sent, by the answers that came of it. -/
def sent : List Alert → List (Except FeeError Bool) → List Alert
  | alert :: alerts, answer :: answers =>
    if answer = .ok true then alert :: sent alerts answers else sent alerts answers
  | _, _ => []

end Alert

namespace AlertSink

variable {sink : AlertSink} {alert : Alert} {alerts : List Alert}

/-! ### One alert -/

/-- Sends an alert that is called for, and leaves the sink as it was if that fails. -/
def tryNotify (sink : AlertSink) (alert : Alert) : Except FeeError Bool × AlertSink :=
  match sink.notify alert with
  | .ok (sent, sink') => (.ok sent, sink')
  | .error e => (.error e, sink)

/-- What can become of one alert. -/
theorem tryNotify_cases (sink : AlertSink) (alert : Alert) :
    ¬ alert.Warranted ∧ sink.tryNotify alert = (.ok false, sink) ∨
      alert.Warranted ∧ sink.failing = false ∧
        sink.tryNotify alert = (.ok true, { sink with received := sink.received ++ [alert] }) ∨
      alert.Warranted ∧ sink.failing = true ∧
        sink.tryNotify alert = (.error (.unavailable .sink), sink) := by
  unfold tryNotify notify send
  rw [← Alert.isCalledFor_iff]
  cases called : alert.isCalledFor with
  | false => exact .inl ⟨by simp, rfl⟩
  | true =>
    cases refuses : sink.failing with
    | false => exact .inr (.inl ⟨rfl, rfl, rfl⟩)
    | true => exact .inr (.inr ⟨rfl, rfl, rfl⟩)

/-! ### A series of alerts -/

/-- Sends alerts one after another, as far as they are called for. -/
def notifyAll (sink : AlertSink) : List Alert → List (Except FeeError Bool) × AlertSink
  | [] => ([], sink)
  | alert :: alerts =>
    let (answer, next) := sink.tryNotify alert
    let (answers, last) := next.notifyAll alerts
    (answer :: answers, last)

/-- What a series of alerts answers, and what it leaves in the sink. -/
structure Delivers (sink : AlertSink) (alerts : List Alert) (answers : List (Except FeeError Bool))
    (last : AlertSink) : Prop where
  /-- Each alert has its answer. -/
  answered : answers.length = alerts.length
  /-- The sink holds what was sent, behind what it had received before. -/
  received : last.received = sink.received ++ Alert.sent alerts answers
  /-- Where the sink does not refuse, an alert is sent just when its report has something to
  tell. -/
  warranted : sink.failing = false → ∀ (i : Nat) (alert : Alert), alerts[i]? = some alert →
    (answers[i]? = some (.ok true) ↔ alert.Warranted) ∧
      (answers[i]? = some (.ok false) ↔ ¬ alert.Warranted)
  /-- Where it refuses, nothing is sent. -/
  refused : sink.failing = true → last.received = sink.received

theorem failing_tryNotify (sink : AlertSink) (alert : Alert) :
    (sink.tryNotify alert).2.failing = sink.failing := by
  rcases sink.tryNotify_cases alert with ⟨-, h⟩ | ⟨-, -, h⟩ | ⟨-, -, h⟩
  · rw [h]
  · rw [h]
  · rw [h]

/-- **A sink holds what was sent to it**, in the order of the calls. -/
theorem delivers_notifyAll (sink : AlertSink) (alerts : List Alert) :
    Delivers sink alerts (sink.notifyAll alerts).1 (sink.notifyAll alerts).2 := by
  induction alerts generalizing sink with
  | nil =>
    refine ⟨rfl, (List.append_nil _).symm, ?_, fun _ => rfl⟩
    intro _ i alert h
    cases h
  | cons alert alerts ih =>
    have rest := ih (sink.tryNotify alert).2
    have same := failing_tryNotify sink alert
    refine ⟨congrArg (· + 1) rest.answered, ?_, ?_, ?_⟩
    · show ((sink.tryNotify alert).2.notifyAll alerts).2.received = sink.received ++
        Alert.sent (alert :: alerts)
          ((sink.tryNotify alert).1 :: ((sink.tryNotify alert).2.notifyAll alerts).1)
      rw [rest.received, Alert.sent]
      rcases sink.tryNotify_cases alert with ⟨-, h⟩ | ⟨-, -, h⟩ | ⟨-, -, h⟩
      · rw [h, if_neg nofun]
      · rw [h, if_pos rfl, List.append_assoc, List.singleton_append]
      · rw [h, if_neg nofun]
    · intro prompt i other found
      cases i with
      | zero =>
        cases found
        show (some (sink.tryNotify alert).1 = _ ↔ _) ∧ (some (sink.tryNotify alert).1 = _ ↔ _)
        rcases sink.tryNotify_cases alert with ⟨warranted, h⟩ | ⟨warranted, -, h⟩ | ⟨-, refuses, -⟩
        · simp [h, warranted]
        · simp [h, warranted]
        · rw [prompt] at refuses
          cases refuses
      | succ i => exact rest.warranted (same.trans prompt) i other found
    · intro refuses
      show ((sink.tryNotify alert).2.notifyAll alerts).2.received = sink.received
      rw [rest.refused (same.trans refuses)]
      rcases sink.tryNotify_cases alert with ⟨-, h⟩ | ⟨-, prompt, -⟩ | ⟨-, -, h⟩
      · rw [h]
      · rw [refuses] at prompt
        cases prompt
      · rw [h]

end AlertSink

/-! ### Reports and alerts -/

namespace Reconciler

/--
**Reports are coherent, and alerts are what they call for.**  Under a configuration that
passes its check, every report on a batch is coherent at its tolerance, however the
schools landed and whether or not a cancel left some of them out.  And whatever series of
reports is offered to a sink, it holds in the end, behind what it had before, those that
were said to be sent, in the order of the calls and unaltered; where it does not refuse,
these are the ones with something to tell.
-/
theorem reports_coherent_and_alerted (config : Config) (valid : config.check = .ok ())
    (localFeed remoteFeed : Feed) :
    ∃ r, create config localFeed remoteFeed = .ok r ∧
      (∀ run schools window order cancelled report,
        r.report run schools window order cancelled = .ok report →
        report.Coherent config.mismatchTolerance) ∧
      (∀ run schools window cancelAt report,
        r.reconcileUntil run schools window cancelAt = .ok report →
        report.Coherent config.mismatchTolerance) ∧
      ∀ (sink : AlertSink) (alerts : List Alert),
        sink.Delivers alerts (sink.notifyAll alerts).1 (sink.notifyAll alerts).2 := by
  have tolerance := (Config.check_eq_ok.mp valid).2.2.2.2
  refine ⟨_, create_eq_ok.mpr ⟨valid, rfl⟩, ?_, ?_, AlertSink.delivers_notifyAll⟩
  · intro run schools window order cancelled report h
    exact coherent_of_report tolerance h
  · intro run schools window cancelAt report h
    exact coherent_of_report tolerance h

/-- A difference of one is within the tolerance at `a` and one of two and a half is not at `b`; the
report on both is sent, and the empty report offered before it is not. -/
theorem reports_coherent_and_alerted_beyond_tolerance :
    (Config.mk "pg" 0 2 ⟨999⟩ 1).check = .ok () ∧
      ∃ r report, create ⟨"pg", 0, 2, ⟨999⟩, 1⟩ ((Feed.empty.setTotal "a" 1).setTotal "b" 1)
          ((Feed.empty.setTotal "a" 2).setTotal "b" ⟨350, 2⟩) = .ok r ∧
        r.reconcileUntil ⟨"run-0"⟩ [⟨"a", "t"⟩, ⟨"b", "t"⟩] (.day ⟨2024, 1, 1, by decide⟩) none =
          .ok report ∧
        report.Coherent 1 ∧ report.mismatched.length = 1 ∧ AlertSink.empty.failing = false ∧
        (AlertSink.empty.notifyAll [.duplicates ⟨[], [], []⟩, .mismatches report]).2.received =
          [.mismatches report] := by
  have valid : (Config.mk "pg" 0 2 ⟨999⟩ 1).check = .ok () := Config.check_eq_ok.mpr (by decide)
  obtain ⟨r, created, -, coherent, delivers⟩ := reports_coherent_and_alerted
    ⟨"pg", 0, 2, ⟨999⟩, 1⟩ valid ((Feed.empty.setTotal "a" 1).setTotal "b" 1)
    ((Feed.empty.setTotal "a" 2).setTotal "b" ⟨350, 2⟩)
  obtain ⟨-, rfl⟩ := create_eq_ok.mp created
  obtain ⟨report, answered, possible⟩ := @exists_reconcile
    ⟨⟨"pg", 0, 2, ⟨999⟩, 1⟩, (Feed.empty.setTotal "a" 1).setTotal "b" 1,
      (Feed.empty.setTotal "a" 2).setTotal "b" ⟨350, 2⟩⟩
    [⟨"a", "t"⟩, ⟨"b", "t"⟩] (by decide) ⟨"run-0"⟩ (by decide) (.day ⟨2024, 1, 1, by decide⟩)
  have whole := coherent _ _ _ _ _ answered
  have one : report.mismatched.length = 1 := by
    rw [ReconciliationReport.mismatched, (complete_of_possible possible).records]
    decide
  have delivered := delivers .empty [.duplicates ⟨[], [], []⟩, .mismatches report]
  obtain ⟨first, second, answers⟩ := List.length_eq_two.mp delivered.answered
  have mismatch : (Alert.mismatches report).Warranted := by
    have nonempty : report.mismatched ≠ [] := List.ne_nil_of_length_pos (by omega)
    exact (Alert.isCalledFor_iff _).mp (whole.hasMismatches.mpr nonempty)
  have second_sent := ((delivered.warranted rfl 1 _ rfl).1).mpr mismatch
  have first_unsent := ((delivered.warranted rfl 0 _ rfl).2).mpr
    (mt (Alert.isCalledFor_iff _).mpr (by decide))
  rw [answers] at first_unsent second_sent
  cases first_unsent
  cases second_sent
  refine ⟨valid, _, report, created, answered, whole, one, rfl, ?_⟩
  rw [delivered.received, answers]
  rfl

end Reconciler

end SchoolFees

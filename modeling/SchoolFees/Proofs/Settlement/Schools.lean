/-
What becomes of one school, and of a batch along a landing order.

A school is answered when its identifier can be used and both feeds answer about it
before the deadline.  Its comparison then has the totals of both feeds; otherwise it is
skipped, whichever of the two calls failed first and for whatever reason
(`answer_eq_ok_iff`).  None of this depends on the rest of the batch, so each position
of the input yields a record, or a skip, that is fixed before the run begins:
`recordAt?` and `skipAt?`.  What a run gathers is what the positions that landed yield.
-/
import SchoolFees.Proofs.Fanout.Landing
import SchoolFees.Proofs.Outcome
import SchoolFees.Settlement.Reconciliation

namespace SchoolFees

/-! ### Calls -/

namespace Call

variable {α β : Type} {c : Call α} {d : Call β}

theorem both_answer_eq_ok {a : α} {b : β} :
    (c.both d).answer = .ok (a, b) ↔ c.answer = .ok a ∧ d.answer = .ok b := by
  unfold both
  cases hc : c.answer with
  | ok a' =>
    cases hd : d.answer with
    | ok b' => simp
    | error f => simp
  | error e =>
    cases hd : d.answer with
    | ok b' => simp
    | error f => by_cases hlater : d.elapsed < c.elapsed <;> simp [hlater]

theorem within_answer_eq_ok {limit : Duration} {a : α} :
    (c.within limit).answer = .ok a ↔ c.elapsed ≤ limit.millis ∧ c.answer = .ok a := by
  unfold within
  by_cases intime : c.elapsed ≤ limit.millis
  · simp [intime]
  · simp [intime]

end Call

/-- The feed answers about a school before the deadline. -/
def Feed.Answers (f : Feed) (limit : Duration) (schoolId : String) : Prop :=
  schoolId ∉ f.failing ∧ (f.delays.get? schoolId).getD 0 ≤ limit.millis

instance (f : Feed) (limit : Duration) (schoolId : String) :
    Decidable (f.Answers limit schoolId) :=
  inferInstanceAs (Decidable (_ ∧ _))

theorem Feed.total_within_eq_ok {f : Feed} {limit : Duration} {schoolId : String}
    {total : Option Decimal} :
    ((f.total schoolId).within limit).answer = .ok total ↔
      f.Answers limit schoolId ∧ total = f.totals.get? schoolId := by
  rw [Call.within_answer_eq_ok]
  unfold Feed.total Feed.Answers
  by_cases failing : schoolId ∈ f.failing
  · simp [failing, Call.refuse]
  · simp [failing, eq_comm]

namespace Reconciler

/-! ### One school -/

variable {r : Reconciler} {window : DateWindow} {schools : List School} {order : List Nat}

/-- The school can be asked about, and both feeds answer in time. -/
def Answered (r : Reconciler) (school : School) : Prop :=
  checkIdentifier school.id = .ok () ∧
    r.localFeed.Answers r.config.callTimeout school.id ∧
    r.remoteFeed.Answers r.config.callTimeout school.id

instance (id : String) : Decidable (checkIdentifier id = .ok ()) :=
  match checkIdentifier id with
  | .ok () => .isTrue rfl
  | .error _ => .isFalse fun h => by cases h

instance (r : Reconciler) (school : School) : Decidable (r.Answered school) :=
  inferInstanceAs (Decidable (_ ∧ _))

/-- The comparison of what the feeds have for a school. -/
def comparison (r : Reconciler) (window : DateWindow) (school : School) : ReconciliationRecord :=
  .compare school window r.config.mismatchTolerance (r.localFeed.totals.get? school.id)
    (r.remoteFeed.totals.get? school.id)

theorem totals_answer_eq_ok {schoolId : String} {localTotal remoteTotal : Option Decimal} :
    (r.totals schoolId).answer = .ok (localTotal, remoteTotal) ↔
      (r.localFeed.Answers r.config.callTimeout schoolId ∧
        localTotal = r.localFeed.totals.get? schoolId) ∧
      (r.remoteFeed.Answers r.config.callTimeout schoolId ∧
        remoteTotal = r.remoteFeed.totals.get? schoolId) := by
  unfold totals
  rw [Call.both_answer_eq_ok, Feed.total_within_eq_ok, Feed.total_within_eq_ok]

/-- **A school is compared just when it is answered.** -/
theorem answer_eq_ok_iff {school : School} {record : ReconciliationRecord} :
    (r.reconcileSchool window school).answer = .ok record ↔
      r.Answered school ∧ record = r.comparison window school := by
  unfold reconcileSchool Answered
  cases hid : checkIdentifier school.id with
  | error e => simp [Call.refuse]
  | ok u =>
    have htotals := @totals_answer_eq_ok r school.id
    simp only [Call.andThen, true_and]
    cases hanswer : (r.totals school.id).answer with
    | error e =>
      rw [hanswer] at htotals
      refine ⟨?_, ?_⟩
      · intro h
        cases h
      · intro h
        obtain ⟨⟨hlocal, hremote⟩, -⟩ := h
        cases htotals.mpr ⟨⟨hlocal, rfl⟩, ⟨hremote, rfl⟩⟩
    | ok pair =>
      obtain ⟨localTotal, remoteTotal⟩ := pair
      obtain ⟨⟨hlocal, rfl⟩, ⟨hremote, rfl⟩⟩ := htotals.mp hanswer
      simp [hlocal, hremote, comparison, eq_comm]

/-- The record of a school, if it is answered. -/
def record? (r : Reconciler) (window : DateWindow) (school : School) :
    Option ReconciliationRecord :=
  if r.Answered school then some (r.comparison window school) else none

/-- The entry of a school among the skipped, if it is not answered. -/
def skip? (r : Reconciler) (school : School) : Option String :=
  if r.Answered school then none else some school.id

section Answer

variable {school : School} {record : ReconciliationRecord} {e : FeeError}

theorem record?_of_ok (h : (r.reconcileSchool window school).answer = .ok record) :
    r.record? window school = some record := by
  obtain ⟨answered, rfl⟩ := answer_eq_ok_iff.mp h
  exact if_pos answered

theorem skip?_of_ok (h : (r.reconcileSchool window school).answer = .ok record) :
    r.skip? school = none := if_pos (answer_eq_ok_iff.mp h).1

theorem not_answered_of_error (h : (r.reconcileSchool window school).answer = .error e) :
    ¬ r.Answered school := by
  intro answered
  rw [answer_eq_ok_iff.mpr ⟨answered, rfl⟩] at h
  cases h

theorem record?_of_error (h : (r.reconcileSchool window school).answer = .error e) :
    r.record? window school = none := if_neg (not_answered_of_error h)

theorem skip?_of_error (h : (r.reconcileSchool window school).answer = .error e) :
    r.skip? school = some school.id := if_neg (not_answered_of_error h)

end Answer

/-- The record of the school at a position. -/
def recordAt? (r : Reconciler) (window : DateWindow) (schools : List School) (i : Nat) :
    Option ReconciliationRecord :=
  schools[i]?.bind (r.record? window)

/-- The skip of the school at a position. -/
def skipAt? (r : Reconciler) (schools : List School) (i : Nat) : Option String :=
  schools[i]?.bind r.skip?

/-- A position of the input yields a record or a skip, and not both. -/
theorem isSome_skipAt? {i : Nat} (h : i < schools.length) :
    (r.skipAt? schools i).isSome = !(r.recordAt? window schools i).isSome := by
  unfold skipAt? recordAt? skip? record?
  rw [List.getElem?_eq_getElem h, Option.bind_some, Option.bind_some]
  by_cases answered : r.Answered schools[i]
  · simp [answered]
  · simp [answered]

/-! ### A batch along an order -/

theorem recordsOf_gather :
    recordsOf (Fanout.gather (r.outcomes window schools) order) =
      Fanout.inInputOrder (Fanout.collect (r.recordAt? window schools) order) := by
  unfold recordsOf Fanout.gather Fanout.collect outcomes
  rw [List.filterMap_filterMap]
  congr 2
  funext i
  unfold recordAt?
  rw [List.getElem?_map]
  cases schools[i]? with
  | none => rfl
  | some school =>
    cases hanswer : (r.reconcileSchool window school).answer with
    | ok record => simp [hanswer, record?_of_ok hanswer]
    | error e => simp [hanswer, record?_of_error hanswer]

theorem skippedOf_gather :
    skippedOf (Fanout.gather (r.outcomes window schools) order) =
      order.filterMap (r.skipAt? schools) := by
  unfold skippedOf Fanout.gather outcomes
  rw [List.filterMap_filterMap]
  congr 1
  funext i
  unfold skipAt?
  rw [List.getElem?_map]
  cases schools[i]? with
  | none => rfl
  | some school =>
    cases hanswer : (r.reconcileSchool window school).answer with
    | ok record => simp [hanswer, skip?_of_ok hanswer]
    | error e => simp [hanswer, skip?_of_error hanswer]

theorem checkBatch_eq_ok {α : Type} {batch : List α} :
    checkBatch batch = .ok () ↔ batch ≠ [] := by
  unfold checkBatch
  rw [require_eq_ok, List.isEmpty_iff]

/-- What the report on a batch says, in terms of what each position yields. -/
theorem report_eq_ok {run : RunId} {cancelled : Bool} {report : ReconciliationReport} :
    r.report run schools window order cancelled = .ok report ↔
      schools ≠ [] ∧ report =
        { run
          writtenAt := none
          window
          records := Fanout.inInputOrder (Fanout.collect (r.recordAt? window schools) order)
          skipped := order.filterMap (r.skipAt? schools)
          cancelled } := by
  unfold Reconciler.report
  rw [Outcome.bind_eq_ok]
  simp only [recordsOf_gather, skippedOf_gather]
  refine ⟨?_, ?_⟩
  · intro h
    obtain ⟨u, hbatch, hreport⟩ := h
    exact ⟨checkBatch_eq_ok.mp hbatch, (Except.ok.inj hreport).symm⟩
  · intro h
    obtain ⟨hsome, rfl⟩ := h
    exact ⟨(), checkBatch_eq_ok.mpr hsome, rfl⟩

end Reconciler

end SchoolFees

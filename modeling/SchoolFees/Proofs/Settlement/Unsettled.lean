/-
The live schools that nothing was settled for on a day.

What the check of a day finds about a record is one of four things: the school is not live,
some payments were settled, there is a gap, or the school is skipped.  `Finds` tells which,
from the record and from what is answered about its price key alone, and there is always
exactly one (`finds_iff`).  A report has the gaps and the skips among these findings, in the
order of the records, whatever the order in which the checks end: an order in which all of
them do is a rearrangement of the input, and what is gathered along it is sorted back.
-/
import Mathlib.Data.List.Forall2
import SchoolFees.Proofs.Calendar.DayBefore
import SchoolFees.Proofs.Fanout.Ordered
import SchoolFees.Proofs.Settlement.Schools
import SchoolFees.Settlement.Gaps

namespace SchoolFees

/-! ### One record -/

/-- The school is live: this is its price key without the blanks around it, and it is not empty. -/
def SchoolRecord.LiveUnder (r : SchoolRecord) (key : String) : Prop :=
  r.priceKey.map Text.trim = some key ∧ key ≠ ""

theorem SchoolRecord.liveKey?_eq_some_iff {r : SchoolRecord} {key : String} :
    r.liveKey? = some key ↔ r.LiveUnder key := Text.keyed_eq_some_iff

theorem SchoolRecord.liveKey?_eq_none_iff {r : SchoolRecord} :
    r.liveKey? = none ↔ ∀ key, ¬ r.LiveUnder key := by
  simp only [Option.eq_none_iff_forall_ne_some, ne_eq, liveKey?_eq_some_iff]

/-- What the check of a day finds about a school. -/
inductive Finding where
  /-- The school is not live, and is not asked about. -/
  | notLive
  /-- Something was settled. -/
  | settled
  /-- Nothing was. -/
  | gap (missing : SettlementGap)
  /-- It could not be found out for the school of this identifier. -/
  | skipped (schoolId : String)

namespace Finding

/-- The entry of a finding among the gaps. -/
def gap? : Finding → Option SettlementGap
  | .gap missing => some missing
  | _ => none

/-- The entry of a finding among the skipped. -/
def skip? : Finding → Option String
  | .skipped school => some school
  | _ => none

/-- No finding has an entry in both places. -/
theorem gap?_eq_none_or_skip?_eq_none (f : Finding) : f.gap? = none ∨ f.skip? = none := by
  cases f with
  | gap missing => exact .inr rfl
  | notLive => exact .inl rfl
  | settled => exact .inl rfl
  | skipped schoolId => exact .inl rfl

end Finding

variable {counts : SettlementCounts} {limit : Duration} {date : Date} {r : SchoolRecord}
  {f : Finding}

/-- The check of a day finds this about a school. -/
inductive Finds (counts : SettlementCounts) (limit : Duration) (date : Date) (r : SchoolRecord) :
    Finding → Prop
  | notLive (keyless : ∀ key, ¬ r.LiveUnder key) : Finds counts limit date r .notLive
  /-- The identifier cannot be used, whatever would be answered about the key. -/
  | refused {key : String} (live : r.LiveUnder key)
      (unusable : checkIdentifier r.school.id ≠ .ok ()) :
      Finds counts limit date r (.skipped r.school.id)
  | late {key : String} (live : r.LiveUnder key) (usable : checkIdentifier r.school.id = .ok ())
      (late : limit.millis < (counts key date).elapsed) :
      Finds counts limit date r (.skipped r.school.id)
  | failed {key : String} {e : FeeError} (live : r.LiveUnder key)
      (usable : checkIdentifier r.school.id = .ok ())
      (inTime : (counts key date).elapsed ≤ limit.millis)
      (answer : (counts key date).answer = .error e) :
      Finds counts limit date r (.skipped r.school.id)
  | unsettled {key : String} (live : r.LiveUnder key)
      (usable : checkIdentifier r.school.id = .ok ())
      (inTime : (counts key date).elapsed ≤ limit.millis)
      (answer : (counts key date).answer = .ok 0) :
      Finds counts limit date r (.gap ⟨r.school, r.name, key, date⟩)
  | settled {key : String} {count : Nat} (live : r.LiveUnder key)
      (usable : checkIdentifier r.school.id = .ok ())
      (inTime : (counts key date).elapsed ≤ limit.millis)
      (answer : (counts key date).answer = .ok count) (positive : count ≠ 0) :
      Finds counts limit date r .settled

/-- **A count comes from a school that can be asked about, and in time.** -/
theorem LiveSchool.settledCount_eq_ok_iff {key : String} {count : Nat} :
    settledCount counts limit date ⟨r, key⟩ = .ok count ↔
      checkIdentifier r.school.id = .ok () ∧ (counts key date).elapsed ≤ limit.millis ∧
        (counts key date).answer = .ok count := by
  unfold settledCount
  rw [Outcome.mapError_eq_ok, Outcome.bind_eq_ok, Call.within_answer_eq_ok]
  refine ⟨?_, ?_⟩
  · intro h
    obtain ⟨_, usable, answer⟩ := h
    exact ⟨usable, answer⟩
  · intro h
    obtain ⟨usable, answer⟩ := h
    exact ⟨(), usable, answer⟩

/-- What a count, or its failure, says about a live school. -/
def LiveSchool.finding (date : Date) (live : LiveSchool) : Except FeeError Nat → Finding
  | .ok 0 => .gap (live.gap date)
  | .ok (_ + 1) => .settled
  | .error _ => .skipped live.record.school.id

/-- What is found about a school, put together from its key and its count. -/
def SchoolRecord.finding (counts : SettlementCounts) (limit : Duration) (date : Date)
    (r : SchoolRecord) : Finding :=
  match r.liveKey? with
  | none => .notLive
  | some key =>
    let live : LiveSchool := ⟨r, key⟩
    live.finding date (live.settledCount counts limit date)

theorem SchoolRecord.finding_of_keyless (keyless : ∀ key, ¬ r.LiveUnder key) :
    r.finding counts limit date = .notLive := by
  unfold finding
  rw [liveKey?_eq_none_iff.mpr keyless]

theorem SchoolRecord.finding_of_live {key : String} (live : r.LiveUnder key) :
    r.finding counts limit date =
      LiveSchool.finding date ⟨r, key⟩ (LiveSchool.settledCount counts limit date ⟨r, key⟩) := by
  unfold finding
  rw [liveKey?_eq_some_iff.mpr live]

/-- A live school is skipped when no count of it comes in. -/
theorem SchoolRecord.finding_of_uncounted {key : String} (live : r.LiveUnder key)
    (uncounted : ∀ count, LiveSchool.settledCount counts limit date ⟨r, key⟩ ≠ .ok count) :
    r.finding counts limit date = .skipped r.school.id := by
  rw [finding_of_live live]
  cases hcount : LiveSchool.settledCount counts limit date ⟨r, key⟩ with
  | error e => rfl
  | ok count => exact absurd hcount (uncounted count)

theorem SchoolRecord.finds_finding (counts : SettlementCounts) (limit : Duration) (date : Date)
    (r : SchoolRecord) : Finds counts limit date r (r.finding counts limit date) := by
  cases hkey : r.liveKey? with
  | none =>
    have keyless := liveKey?_eq_none_iff.mp hkey
    rw [finding_of_keyless keyless]
    exact .notLive keyless
  | some key =>
    have live := liveKey?_eq_some_iff.mp hkey
    cases hcount : LiveSchool.settledCount counts limit date ⟨r, key⟩ with
    | ok count =>
      obtain ⟨usable, inTime, answer⟩ := LiveSchool.settledCount_eq_ok_iff.mp hcount
      rw [finding_of_live live, hcount]
      cases count with
      | zero => exact .unsettled live usable inTime answer
      | succ n => exact .settled live usable inTime answer (Nat.succ_ne_zero n)
    | error e =>
      rw [finding_of_live live, hcount]
      by_cases usable : checkIdentifier r.school.id = .ok ()
      · by_cases inTime : (counts key date).elapsed ≤ limit.millis
        · cases answer : (counts key date).answer with
          | ok count =>
            rw [LiveSchool.settledCount_eq_ok_iff.mpr ⟨usable, inTime, answer⟩] at hcount
            cases hcount
          | error cause => exact .failed live usable inTime answer
        · exact .late live usable (Nat.lt_of_not_le inTime)
      · exact .refused live usable

/-- **Exactly one thing is found about a school.** -/
theorem SchoolRecord.finds_iff : Finds counts limit date r f ↔ f = r.finding counts limit date := by
  refine ⟨?_, ?_⟩
  · intro h
    symm
    cases h with
    | notLive keyless => exact finding_of_keyless keyless
    | refused live unusable =>
      exact finding_of_uncounted live fun count h =>
        unusable (LiveSchool.settledCount_eq_ok_iff.mp h).1
    | late live usable late =>
      exact finding_of_uncounted live fun count h =>
        absurd (LiveSchool.settledCount_eq_ok_iff.mp h).2.1 (Nat.not_le_of_lt late)
    | failed live usable inTime answer =>
      refine finding_of_uncounted live fun count h => ?_
      have counted := (LiveSchool.settledCount_eq_ok_iff.mp h).2.2
      rw [answer] at counted
      cases counted
    | unsettled live usable inTime answer =>
      rw [finding_of_live live, LiveSchool.settledCount_eq_ok_iff.mpr ⟨usable, inTime, answer⟩]
      rfl
    | @settled key count live usable inTime answer positive =>
      rw [finding_of_live live, LiveSchool.settledCount_eq_ok_iff.mpr ⟨usable, inTime, answer⟩]
      obtain ⟨n, rfl⟩ := Nat.exists_eq_succ_of_ne_zero positive
      rfl
  · rintro rfl
    exact finds_finding counts limit date r

/-! ### One report -/

namespace GapReport

variable {records : List SchoolRecord} {asOf : Date} {run : RunId} {order : Nat → List Nat}
  {e : FeeError}

/-- The checks of all live schools, in input order. -/
def inOrder (counts : SettlementCounts) (limit : Duration) (date : Date)
    (records : List SchoolRecord) : List (LiveSchool × Except FeeError Nat) :=
  (LiveSchool.ofRecords records).map fun live => (live, live.settledCount counts limit date)

/-- What is read off the findings is read off the checks, if nothing is read off a school that is
not live. -/
theorem filterMap_inOrder {β : Type} (entry : Finding → Option β)
    (unlisted : entry .notLive = none) :
    (inOrder counts limit date records).filterMap (fun c => entry (c.1.finding date c.2)) =
      (records.map (·.finding counts limit date)).filterMap entry := by
  unfold inOrder LiveSchool.ofRecords
  rw [List.filterMap_map, List.filterMap_filterMap, List.filterMap_map]
  congr 1
  funext r
  unfold SchoolRecord.finding
  rw [Function.comp_apply]
  cases r.liveKey? with
  | none => exact unlisted.symm
  | some key => rfl

theorem gapsOf_inOrder :
    gapsOf date (inOrder counts limit date records) =
      (records.map (·.finding counts limit date)).filterMap Finding.gap? := by
  rw [← filterMap_inOrder Finding.gap? rfl]
  unfold gapsOf
  congr 1
  funext ⟨live, count⟩
  rcases count with e | _ | n <;> rfl

theorem skippedOf_inOrder :
    skippedOf (inOrder counts limit date records) =
      (records.map (·.finding counts limit date)).filterMap Finding.skip? := by
  rw [← filterMap_inOrder Finding.skip? rfl]
  unfold skippedOf
  congr 1
  funext ⟨live, count⟩
  rcases count with e | _ | n <;> rfl

/-- The checks of the live schools all end, in an order that the width allows. -/
def EndIn (width : Nat) (records : List SchoolRecord) (order : List Nat) : Prop :=
  Fanout.Feasible width (LiveSchool.ofRecords records).length order ∧
    order.length = (LiveSchool.ofRecords records).length

instance (width : Nat) (records : List SchoolRecord) (order : List Nat) :
    Decidable (EndIn width records order) :=
  inferInstanceAs (Decidable (_ ∧ _))

/-- The order in which the checks end leaves no trace. -/
theorem checks_of_endIn {width : Nat} {order : List Nat} (ends : EndIn width records order) :
    checks counts limit date (LiveSchool.ofRecords records) order =
      inOrder counts limit date records := by
  refine Fanout.inInputOrder_gather ?_
  rw [List.length_map]
  exact Fanout.perm_range_of_feasible ends.1 ends.2

/-- The report on a day that has the gaps and the skips among these findings. -/
def ofFindings (run : RunId) (date : Date) (findings : List Finding) : GapReport :=
  ⟨run, date, findings.filterMap Finding.gap?, findings.filterMap Finding.skip?⟩

theorem find_eq_ok {checked : List (LiveSchool × Except FeeError Nat)} (nonempty : records ≠ [])
    (before : date.IsDayBefore asOf)
    (gathered : checks counts limit date (LiveSchool.ofRecords records)
      (order (LiveSchool.ofRecords records).length) = checked) :
    find counts limit run records asOf order =
      .ok ⟨run, date, gapsOf date checked, skippedOf checked⟩ := by
  unfold find dayBefore
  rw [Reconciler.checkBatch_eq_ok.mpr nonempty, Date.previous?_eq_some_iff.mpr before, ← gathered]
  rfl

/-- **The order in which the checks end leaves no trace in the report.** -/
theorem find_of_endIn {width : Nat} (nonempty : records ≠ []) (before : date.IsDayBefore asOf)
    (ends : EndIn width records (order (LiveSchool.ofRecords records).length)) :
    find counts limit run records asOf order =
      .ok (ofFindings run date (records.map (·.finding counts limit date))) := by
  rw [find_eq_ok nonempty before (checks_of_endIn ends), gapsOf_inOrder, skippedOf_inOrder]
  rfl

/-- There is no report on no schools, nor on a day that has none before it. -/
theorem find_eq_error_iff :
    find counts limit run records asOf order = .error e ↔
      records = [] ∧ e = .validation .emptyBatch ∨
        records ≠ [] ∧ (∀ d : Date, ¬ d < asOf) ∧ e = .validation (.noDayBefore asOf) := by
  cases records with
  | nil =>
    have fails : find counts limit run [] asOf order = .error (.validation .emptyBatch) := rfl
    rw [fails, Except.error.injEq]
    simp [eq_comm]
  | cons r rest =>
    have nonempty : r :: rest ≠ [] := List.cons_ne_nil r rest
    cases hdate : asOf.previous? with
    | none =>
      have earliest := Date.previous?_eq_none_iff.mp hdate
      have fails : find counts limit run (r :: rest) asOf order =
          .error (.validation (.noDayBefore asOf)) := by
        unfold find dayBefore
        rw [Reconciler.checkBatch_eq_ok.mpr nonempty, hdate]
        rfl
      rw [fails, Except.error.injEq]
      simp [earliest, eq_comm]
    | some date =>
      have before := Date.previous?_eq_some_iff.mp hdate
      rw [find_eq_ok nonempty before rfl]
      refine ⟨nofun, ?_⟩
      intro h
      rcases h with ⟨empty, -⟩ | ⟨-, earliest, -⟩
      · exact absurd empty nonempty
      · exact absurd before.earlier (earliest date)

/--
**The gaps are the live schools that nothing was settled for.**  Whatever is answered about their
keys and in whatever order the checks end, a report fails on an empty list and on the first date
only.  Every other report is about the day before, and has the gaps and the skips among what is
found about the records, in their order: exactly one thing about each of them, which never has
an entry in both places.
-/
theorem find_reports_findings (counts : SettlementCounts) (limit : Duration) {width : Nat}
    (room : width ≠ 0) (run : RunId) (records : List SchoolRecord) (asOf : Date) :
    (∀ date r, ∃! f, Finds counts limit date r f) ∧
      (∀ f : Finding, f.gap? = none ∨ f.skip? = none) ∧
      (∃ order, EndIn width records order) ∧
      ∀ order : Nat → List Nat, EndIn width records (order (LiveSchool.ofRecords records).length) →
        (∀ e, find counts limit run records asOf order = .error e ↔
          records = [] ∧ e = .validation .emptyBatch ∨
            records ≠ [] ∧ (∀ d : Date, ¬ d < asOf) ∧ e = .validation (.noDayBefore asOf)) ∧
        ∀ date : Date, records ≠ [] → date.IsDayBefore asOf →
          ∃ findings, List.Forall₂ (Finds counts limit date) records findings ∧
            find counts limit run records asOf order = .ok (ofFindings run date findings) := by
  refine ⟨?_, Finding.gap?_eq_none_or_skip?_eq_none,
    ⟨Fanout.inputOrder _, Fanout.feasible_inputOrder room, List.length_range⟩, ?_⟩
  · intro date r
    exact ⟨_, r.finds_finding counts limit date, fun f h => SchoolRecord.finds_iff.mp h⟩
  · intro order ends
    refine ⟨fun e => find_eq_error_iff, ?_⟩
    intro date nonempty before
    refine ⟨_, ?_, find_of_endIn nonempty before ends⟩
    rw [List.forall₂_map_right_iff, List.forall₂_same]
    intro r _
    exact r.finds_finding counts limit date

def leapDay : Date := ⟨2024, 2, 29, by decide⟩

def firstOfMarch : Date := ⟨2024, 3, 1, by decide⟩

/-- A school of this identifier, with this price key. -/
def keyedRecord (id : String) (priceKey : Option String) : SchoolRecord :=
  ⟨⟨id, "t1"⟩, "School", none, none, priceKey⟩

/-- Two schools that are not live, a gap, an identifier that cannot be used, a count that comes too
late, one that fails, and a school with settled payments. -/
def mixedRecords : List SchoolRecord :=
  [keyedRecord "" none, keyedRecord "s1" (some "  "), keyedRecord "s2" (some " idle "),
    keyedRecord " " (some "idle"), keyedRecord "s4" (some "slow"), keyedRecord "s5" (some "down"),
    keyedRecord "s6" (some "busy")]

/-- What is answered about their keys. -/
def mixedCounts : SettlementCounts := fun key _ =>
  if key = "idle" then ⟨.ok 0, 0⟩
  else if key = "slow" then ⟨.ok 0, 31⟩
  else if key = "busy" then ⟨.ok 3, 30⟩
  else .refuse (.unavailable (.backend key))

/-- The day before the first of March is the leap day.  Two of the five live schools at most are
asked about at once. -/
theorem find_reports_findings_mixed :
    2 ≠ 0 ∧ EndIn 2 mixedRecords [1, 0, 2, 4, 3] ∧ mixedRecords ≠ [] ∧
      leapDay.IsDayBefore firstOfMarch ∧
      ∃ findings, List.Forall₂ (Finds mixedCounts ⟨30⟩ leapDay) mixedRecords findings ∧
        findings.filterMap Finding.gap? = [⟨⟨"s2", "t1"⟩, "School", "idle", leapDay⟩] ∧
        findings.filterMap Finding.skip? = [" ", "s4", "s5"] := by
  have ends : EndIn 2 mixedRecords [1, 0, 2, 4, 3] := by decide +kernel
  have nonempty : mixedRecords ≠ [] := List.cons_ne_nil _ _
  have before : leapDay.IsDayBefore firstOfMarch :=
    Date.previous?_eq_some_iff.mp (by decide +kernel)
  obtain ⟨-, -, -, reports⟩ := find_reports_findings mixedCounts ⟨30⟩ (by decide : 2 ≠ 0) ⟨"run-0"⟩
    mixedRecords firstOfMarch
  obtain ⟨findings, found, report⟩ :=
    (reports (fun _ => [1, 0, 2, 4, 3]) ends).2 leapDay nonempty before
  rw [find_of_endIn nonempty before ends] at report
  have gaps := congrArg (·.gaps) (Except.ok.inj report)
  have skipped := congrArg (·.skipped) (Except.ok.inj report)
  refine ⟨by decide, ends, nonempty, before, findings, found, gaps.symm.trans ?_,
    skipped.symm.trans ?_⟩
  · decide +kernel
  · decide +kernel

end GapReport

end SchoolFees

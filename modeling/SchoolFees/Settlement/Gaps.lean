/-
Settlement gaps: live schools that nothing was settled for on a day.

The day is the one before the report is asked for.  Schools without a price key are not
live and appear nowhere.  Every other school is checked side by side with the rest, and
what is gathered is put back into input order, so the order in which checks end leaves
no trace.

Whoever is asked how many transactions were settled under a price key is a parameter.
-/
import SchoolFees.Settlement.Reconciliation

namespace SchoolFees

/-- Tells how many transactions were settled under a price key on a day. -/
abbrev SettlementCounts := String → Date → Call Nat

/-- A live school and the key under which its payments are settled. -/
structure LiveSchool where
  record : SchoolRecord
  priceKey : String
deriving DecidableEq

namespace LiveSchool

/-- The live schools among the records. -/
def ofRecords (records : List SchoolRecord) : List LiveSchool :=
  records.filterMap fun record => record.liveKey?.map (LiveSchool.mk record)

/-- How many transactions were settled for a school on a day. -/
def settledCount (counts : SettlementCounts) (limit : Duration) (date : Date) (live : LiveSchool) :
    Except FeeError Nat :=
  let id := live.record.school.id
  let count := do
    checkIdentifier id
    ((counts live.priceKey date).within limit).answer
  count.mapError (FeeError.ofSchool id)

/-- The gap of a school that nothing was settled for. -/
def gap (live : LiveSchool) (date : Date) : SettlementGap :=
  ⟨live.record.school, live.record.name, live.priceKey, date⟩

end LiveSchool

namespace GapReport

/-- The gaps among the checked schools. -/
def gapsOf (date : Date) (checked : List (LiveSchool × Except FeeError Nat)) : List SettlementGap :=
  checked.filterMap fun
    | (live, .ok 0) => some (live.gap date)
    | _ => none

/-- The schools that could not be checked. -/
def skippedOf (checked : List (LiveSchool × Except FeeError Nat)) : List String :=
  checked.filterMap fun
    | (live, .error _) => some live.record.school.id
    | _ => none

/-- The checks of all live schools, landed in the given order and put back into input order. -/
def checks (counts : SettlementCounts) (limit : Duration) (date : Date) (live : List LiveSchool)
    (order : List Nat) : List (LiveSchool × Except FeeError Nat) :=
  Fanout.inInputOrder <|
    Fanout.gather (live.map fun school => (school, school.settledCount counts limit date)) order

/-- The day that a report asked for on `asOf` is about. -/
def dayBefore (asOf : Date) : Except FeeError Date :=
  match asOf.previous? with
  | some date => .ok date
  | none => .error (.validation (.noDayBefore asOf))

/-- The gaps of the day before `asOf`, when the checks end in the order that `order` gives for a
number of them. -/
def find (counts : SettlementCounts) (limit : Duration) (run : RunId) (records : List SchoolRecord)
    (asOf : Date) (order : Nat → List Nat) : Except FeeError GapReport := do
  checkBatch records
  let date ← dayBefore asOf
  let live := LiveSchool.ofRecords records
  let checked := checks counts limit date live (order live.length)
  return ⟨run, date, gapsOf date checked, skippedOf checked⟩

end GapReport

end SchoolFees

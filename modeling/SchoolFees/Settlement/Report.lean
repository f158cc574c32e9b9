/-
Reports of what was found about a set of schools.

A reconciliation report has a record of every school that could be compared, in input
order, and names the schools that were skipped.  A gap report names the live schools
without a settled transaction on a day.  A duplicate report groups records that share a
key.  An alert is a report on its way to whoever has to know.
-/
import SchoolFees.Calendar.DateTime
import SchoolFees.RunId
import SchoolFees.Settlement.Record

namespace SchoolFees

/-- The outcome of one reconciliation run. -/
structure ReconciliationReport where
  run : RunId
  /-- When the report was written, where a clock was at hand. -/
  writtenAt : Option DateTime
  window : DateWindow
  /-- One record for each school that could be compared, in input order. -/
  records : List ReconciliationRecord
  /-- The schools that could not, in the order in which that turned out. -/
  skipped : List String
  /-- The run was ended by a cancel. -/
  cancelled : Bool
deriving DecidableEq

namespace ReconciliationReport

/-- The records of schools whose totals disagree. -/
def mismatched (r : ReconciliationReport) : List ReconciliationRecord :=
  r.records.filter (·.mismatched)

/-- The records of schools that a side has no total for. -/
def missing (r : ReconciliationReport) : List ReconciliationRecord :=
  r.records.filter (·.missing.isSome)

/-- Some school's totals disagree. -/
def hasMismatches (r : ReconciliationReport) : Bool := r.records.any (·.mismatched)

/-- By how much the totals disagree, all schools taken together. -/
def totalDiscrepancy (r : ReconciliationReport) : Decimal :=
  Decimal.sum (r.mismatched.map (·.diff.abs))

end ReconciliationReport

/-- A live school with no transaction settled on a day. -/
structure SettlementGap where
  school : School
  name : String
  priceKey : String
  date : Date
deriving DecidableEq

/-- The schools without a settled transaction on a day. -/
structure GapReport where
  run : RunId
  date : Date
  gaps : List SettlementGap
  /-- The schools that could not be checked, in input order. -/
  skipped : List String
deriving DecidableEq

/-- Items that share a key. -/
structure DuplicateGroup (α : Type) where
  key : String
  count : Nat
  members : List α
deriving DecidableEq

/-- The records that share an e-mail address, a client or a price key. -/
structure DuplicateReport where
  byEmail : List (DuplicateGroup SchoolRecord)
  byClientId : List (DuplicateGroup SchoolRecord)
  byPriceKey : List (DuplicateGroup SchoolRecord)
deriving DecidableEq

/-- No key is shared. -/
def DuplicateReport.isEmpty (r : DuplicateReport) : Bool :=
  r.byEmail.isEmpty && r.byClientId.isEmpty && r.byPriceKey.isEmpty

/-- A report that somebody has to know of. -/
inductive Alert where
  | mismatches (report : ReconciliationReport)
  | settlementGaps (report : GapReport)
  | duplicates (report : DuplicateReport)
deriving DecidableEq

end SchoolFees

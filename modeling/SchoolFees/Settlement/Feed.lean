/-
Feeds of totals: what one side says was ordered at each school.

The same kind of feed serves as either side of a reconciliation.  A feed may have no
total for a school, may take its time, and may refuse, which it does at once.
-/
import SchoolFees.Call
import SchoolFees.Registry

namespace SchoolFees

/-- The totals of one side, and how it behaves. -/
structure Feed where
  totals : Registry String Decimal
  /-- The schools that the feed refuses to answer about. -/
  failing : List String
  /-- How many milliseconds the feed waits before it answers about a school. -/
  delays : Registry String Nat

namespace Feed

/-- A feed without totals. -/
def empty : Feed := ⟨∅, [], ∅⟩

instance : Inhabited Feed := ⟨empty⟩

def setTotal (f : Feed) (schoolId : String) (total : Decimal) : Feed :=
  { f with totals := f.totals.set schoolId total }

def failFor (f : Feed) (schoolId : String) : Feed := { f with failing := schoolId :: f.failing }

def delayFor (f : Feed) (schoolId : String) (millis : Nat) : Feed :=
  { f with delays := f.delays.set schoolId millis }

/-- The total of a school. -/
def total (f : Feed) (schoolId : String) : Call (Option Decimal) :=
  if schoolId ∈ f.failing then .refuse (.unavailable (.feed schoolId))
  else ⟨.ok (f.totals.get? schoolId), (f.delays.get? schoolId).getD 0⟩

end Feed

end SchoolFees

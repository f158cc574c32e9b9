/-
The payments backend.

The backend knows what was ordered in a transaction, which tier it applied to a school,
platform and mode, and how many transactions it settled under a price key on a day.
It is asked by transaction, by school and by price key, and can be made to refuse or to
take its time for any of these; it is one set of names for all three.
-/
import SchoolFees.Call
import SchoolFees.Pricing.Tier
import SchoolFees.Registry

namespace SchoolFees

/-- What the payments backend knows, and how it behaves. -/
structure Payments where
  /-- The amount ordered in each transaction. -/
  amounts : Registry String Decimal
  /-- The tier applied to a school's key, with the key in lower case. -/
  applied : Registry (String × ChargeKey) Tier
  /-- The number of transactions settled under a price key on a day. -/
  settled : Registry (String × Date) Nat
  /-- What the backend refuses to answer about. -/
  failing : List String
  /-- How many milliseconds the backend waits before it answers about something. -/
  delays : Registry String Nat

namespace Payments

/-- A backend that knows nothing. -/
def empty : Payments := ⟨∅, ∅, ∅, [], ∅⟩

instance : Inhabited Payments := ⟨empty⟩

/-! ### What it is told -/

def setAmount (p : Payments) (transaction : String) (amount : Decimal) : Payments :=
  { p with amounts := p.amounts.set transaction amount }

/-- The spelling of the key does not matter. -/
def setApplied (p : Payments) (schoolId : String) (key : ChargeKey) (tier : Tier) : Payments :=
  { p with applied := p.applied.set (schoolId, key.folded) tier }

def setSettled (p : Payments) (priceKey : String) (date : Date) (count : Nat) : Payments :=
  { p with settled := p.settled.set (priceKey, date) count }

def failFor (p : Payments) (name : String) : Payments := { p with failing := name :: p.failing }

def delayFor (p : Payments) (name : String) (millis : Nat) : Payments :=
  { p with delays := p.delays.set name millis }

/-! ### What it answers -/

/-- An answer about `name`, after the delay for it and unless the backend refuses. -/
def answer {α : Type} (p : Payments) (name : String) (value : α) : Call α :=
  ⟨if name ∈ p.failing then .error (.unavailable (.backend name)) else .ok value,
    (p.delays.get? name).getD 0⟩

/-- The amount ordered in a transaction. -/
def orderAmount (p : Payments) (transaction : String) : Call (Option Decimal) :=
  p.answer transaction (p.amounts.get? transaction)

/-- The tier applied to a school's key, in whatever spelling the key is asked. -/
def appliedTier (p : Payments) (schoolId : String) (key : ChargeKey) : Call (Option Tier) :=
  p.answer schoolId (p.applied.get? (schoolId, key.folded))

/-- The number of transactions settled under a price key on a day. -/
def settledCount (p : Payments) (priceKey : String) (date : Date) : Call Nat :=
  p.answer priceKey ((p.settled.get? (priceKey, date)).getD 0)

end Payments

end SchoolFees

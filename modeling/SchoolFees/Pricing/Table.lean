/-
Tables of charges.

A table is a list of tiers in the order in which they were stored, and the first tier
that accepts an amount prices it.  The order is the owner's business: tiers are not
sorted, so a tier without a bound hides whatever stands behind it.  A well-formed
table has exactly one such tier, wherever it stands, and therefore prices every
amount.
-/
import SchoolFees.Error
import SchoolFees.Pricing.Tier

namespace SchoolFees

/-- The tiers of one charge, in stored order. -/
abbrev TierTable := List Tier

namespace TierTable

/-- The tier that prices an amount: the first that accepts it. -/
def select (table : TierTable) (amount : Decimal) : Except FeeError Tier :=
  match table.find? (fun t => t.Accepts amount) with
  | some tier => .ok tier
  | none => .error (.noMatchingTier amount)

/-- Where in the table that tier stands. -/
def selectedAt? (table : TierTable) (amount : Decimal) : Option Nat :=
  table.findIdx? (fun t => t.Accepts amount)

/-- What the table charges on an amount. -/
def fee (table : TierTable) (amount : Decimal) : Except FeeError Decimal :=
  (table.select amount).map (·.fee amount)

/-- How many tiers of the table have no bound. -/
def catchAllCount (table : TierTable) : Nat := table.countP (fun t => t.IsCatchAll)

/-- Accepts a table with exactly one tier that takes every amount. -/
def check (table : TierTable) : Except FeeError Unit := do
  require (table ≠ []) (.validation .emptyTable)
  require (table.catchAllCount = 1) (.validation (.catchAllCount table.catchAllCount))

/-- The bounds of the table, in stored order. -/
def bounds (table : TierTable) : List Decimal := table.filterMap (·.bound)

end TierTable

end SchoolFees

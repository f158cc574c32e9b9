/-
Entries of a catalog: a charge key with its table of tiers.
-/
import SchoolFees.Pricing.Table

namespace SchoolFees

/-- The charges for one key. -/
structure Entry where
  /-- What the charges are for. -/
  key : ChargeKey
  /-- The tiers, in stored order. -/
  tiers : TierTable
deriving DecidableEq

/-- Two tiers that charge nothing, parted at two thousand. -/
def Entry.zeroRated (key : ChargeKey) : Entry :=
  ⟨key, [⟨some 2000, .flat, 0⟩, ⟨none, .flat, 0⟩]⟩

end SchoolFees

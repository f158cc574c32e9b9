/-
Tiers: one row of a table of charges.

A tier prices amounts up to its bound, the bound included; a tier without a bound
accepts every amount.  Its fee is worked out for any amount, also one it would not
accept.
-/
import SchoolFees.Decimal.Division

namespace SchoolFees

/-- How the charge of a tier becomes a fee. -/
inductive ChargeKind where
  /-- The charge is the fee. -/
  | flat
  /-- The fee is so many percent of the amount. -/
  | percent
deriving DecidableEq

/-- One row of a table of charges. -/
structure Tier where
  /-- The largest amount that the tier accepts; without one, it accepts every amount. -/
  bound : Option Decimal
  kind : ChargeKind
  charge : Decimal
deriving DecidableEq

namespace Tier

/-- The tier prices this amount. -/
def Accepts (t : Tier) (amount : Decimal) : Prop :=
  match t.bound with
  | none => True
  | some bound => amount ≤ bound

instance (t : Tier) (amount : Decimal) : Decidable (t.Accepts amount) := by
  unfold Accepts; split <;> infer_instance

/-- What the tier charges on an amount. -/
def fee (t : Tier) (amount : Decimal) : Decimal :=
  match t.kind with
  | .flat => t.charge
  | .percent => (t.charge * amount) / 100

/-- The tier accepts every amount. -/
def IsCatchAll (t : Tier) : Prop := t.bound = none

instance (t : Tier) : Decidable t.IsCatchAll := inferInstanceAs (Decidable (_ = _))

end Tier

end SchoolFees

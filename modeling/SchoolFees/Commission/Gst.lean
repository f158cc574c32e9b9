/-
The goods and services tax on commissions.

The tax is a rate, a fraction of the amount it is charged on, and a rate below zero is
refused.  An amount can be taxed, an amount that contains the tax can be taken apart,
and a set of figures can be taxed figure by figure.
-/
import SchoolFees.Commission.Figures
import SchoolFees.Decimal.Division
import SchoolFees.Error

namespace SchoolFees

namespace Gst

/-- The standard rate, in percent. -/
def standardPercent : Nat := 18

/-- The standard rate. -/
def standardRate : Decimal := Decimal.ofInt standardPercent / 100

/-- Accepts a rate that is not below zero. -/
def checkRate (rate : Decimal) : Except NegativeRate Unit :=
  if rate < 0 then .error ⟨rate⟩ else .ok ()

end Gst

/-- An amount with the tax on it. -/
structure TaxedAmount where
  /-- The amount before tax. -/
  base : Decimal
  rate : Decimal
  tax : Decimal
  /-- The amount with the tax. -/
  total : Decimal
deriving DecidableEq

namespace TaxedAmount

/-- Taxes an amount. -/
def ofBase (base rate : Decimal) : Except NegativeRate TaxedAmount := do
  Gst.checkRate rate
  let tax := base * rate
  return ⟨base, rate, tax, base + tax⟩

/-- Takes an amount apart that contains the tax.  The amount before tax is a quotient and may be
rounded, so the total is worked out again from it. -/
def ofTotal (total rate : Decimal) : Except NegativeRate TaxedAmount := do
  Gst.checkRate rate
  ofBase (total / Decimal.addAligned 1 rate) rate

end TaxedAmount

/-- The tax on a set of figures. -/
structure TaxedFigures where
  /-- The tax alone. -/
  tax : Figures
  /-- The figures with the tax. -/
  withTax : Figures
deriving DecidableEq

/-- Taxes every figure at a rate. -/
def Figures.taxed (figures : Figures) (rate : Decimal) : TaxedFigures :=
  ⟨figures.map (· * rate), figures.map fun figure => figure + figure * rate⟩

/-- Taxes every figure, if the rate is not below zero. -/
def Gst.apply (rate : Decimal) (figures : Figures) : Except NegativeRate TaxedFigures := do
  Gst.checkRate rate
  return figures.taxed rate

end SchoolFees

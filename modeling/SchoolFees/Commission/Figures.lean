/-
The five figures of a commission.

What a school's customers pay above its base rate is the trustee's commission; what the
base rate leaves above the gateway's charge, and the final rate above the applied one,
is the platform's earning.  All of it together is the total commission.
-/
import SchoolFees.Commission.Layer
import SchoolFees.Decimal.Basic

namespace SchoolFees

/-- Who earns what on a payment. -/
structure Figures where
  /-- The trustee's share: final less base. -/
  trustee : Decimal
  /-- The platform's share of the base rate: base less gateway. -/
  platformBase : Decimal
  /-- The platform's share of the final rate: final less applied. -/
  platformFinal : Decimal
  /-- Both shares of the platform. -/
  platform : Decimal
  /-- The shares of trustee and platform. -/
  total : Decimal
deriving DecidableEq

namespace Figures

/-- The figures that follow from the fees of the four layers. -/
def ofFees (fees : Layers Decimal) : Figures :=
  let trustee := fees.schoolFinal - fees.schoolBase
  let platformBase := fees.schoolBase - fees.gatewayBuying
  let platformFinal := fees.schoolFinal - fees.applied
  let platform := platformBase + platformFinal
  ⟨trustee, platformBase, platformFinal, platform, trustee + platform⟩

/-- Changes every figure. -/
def map (f : Decimal → Decimal) (figures : Figures) : Figures :=
  ⟨f figures.trustee, f figures.platformBase, f figures.platformFinal, f figures.platform,
    f figures.total⟩

/-- The totals are worth the sum of their parts. -/
def IsConsistent (figures : Figures) : Prop :=
  figures.platform ≈ figures.platformBase + figures.platformFinal ∧
    figures.total ≈ figures.trustee + figures.platform

instance (figures : Figures) : Decidable figures.IsConsistent :=
  inferInstanceAs (Decidable (_ ∧ _))

end Figures

end SchoolFees

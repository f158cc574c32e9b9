/-
The layers of a commission.

One payment is priced four times: by what the gateway charges, by the base rate of the
school or its trustee, by the final rate of the school, and by the rate that was in
fact applied.  `Layers α` holds one value for each.
-/

namespace SchoolFees

/-- One of the four prices of a payment. -/
inductive Layer where
  /-- What the gateway charges. -/
  | gatewayBuying
  /-- The base rate of the school, or of its trustee. -/
  | schoolBase
  /-- The rate that customers see. -/
  | schoolFinal
  /-- The rate that the payments backend applied. -/
  | applied
deriving DecidableEq

/-- The layer as messages name it. -/
def Layer.toText : Layer → String
  | .gatewayBuying => "gateway buying rate"
  | .schoolBase => "school base rate"
  | .schoolFinal => "school final rate"
  | .applied => "payments backend rate"

instance : ToString Layer := ⟨Layer.toText⟩

/-- One value for each layer. -/
structure Layers (α : Type) where
  gatewayBuying : α
  schoolBase : α
  schoolFinal : α
  applied : α
deriving DecidableEq

/-- Changes the value of every layer. -/
def Layers.map {α β : Type} (f : α → β) (l : Layers α) : Layers β :=
  ⟨f l.gatewayBuying, f l.schoolBase, f l.schoolFinal, f l.applied⟩

end SchoolFees

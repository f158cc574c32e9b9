/-
Owners of rate sheets.

The gateway has a sheet with what it charges, a trustee has one with the base rate of
its schools, and a school may have two: a base rate that overrides its trustee's, and
the final rate that its customers see.  An identifier alone does not name an owner;
the kind of sheet belongs to it.
-/

namespace SchoolFees

/-- Who a rate sheet belongs to. -/
inductive Owner where
  | gateway (id : String)
  | trusteeBase (id : String)
  | schoolBase (id : String)
  | schoolFinal (id : String)
deriving DecidableEq

/-- The owner as messages name it. -/
def Owner.toText : Owner → String
  | .gateway id => s!"gateway:{id}"
  | .trusteeBase id => s!"trustee-base:{id}"
  | .schoolBase id => s!"school-base:{id}"
  | .schoolFinal id => s!"school-final:{id}"

instance : ToString Owner := ⟨Owner.toText⟩

end SchoolFees

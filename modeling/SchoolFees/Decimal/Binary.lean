/-
Decimal amounts from binary fractions.

Every binary fraction is a decimal one, since a half is five tenths: a number of
`2 ^ (-k)`-ths is that number times `5 ^ k`, with `k` digits behind the point.  The
result is exact, and as a rule it has no zero to spare at its end, since an odd number of
parts stays odd.  Only a fraction closer to zero than `2 ^ (-1022)` is counted in
`2 ^ (-1074)`-ths whatever it is, and keeps the zeros that this brings.
-/
import SchoolFees.Decimal.Basic

namespace SchoolFees

/-- The digits behind the point for an odd number `n` of `2 ^ (-k)`-ths: the amount is closer
to zero than `2 ^ (-1022)` just when its leading bit is. -/
def Decimal.binaryPlaces (n k : Int) : Int :=
  if n.natAbs.log2 + 1022 < k then max k 1074 else k

/-- The binary fraction `x`, digit for digit. -/
def Decimal.ofDyadic : (x : Dyadic) → Decimal
  | .zero => 0
  | .ofOdd n k _ =>
    if 0 < k then
      let places := binaryPlaces n k
      ⟨n * 2 ^ (places - k).toNat * 5 ^ places.toNat, places⟩
    else ofInt (n * 2 ^ (-k).toNat)

end SchoolFees

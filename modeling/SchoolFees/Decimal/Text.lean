/-
Decimal amounts as text.

Reading accepts an optional sign, digits that may be grouped by underscores, one
point and an optional power of ten: `1_000.50`, `.5`, `12.e3`.  The point is taken
out before the digits are read, so a sign may also stand directly behind it.

Writing keeps the scale of an amount visible wherever that stays short.  Three rules
choose the form, and each limit has a name here: an amount with more than
`leadingZeros` zeros between the point and its first digit is written with a negative
power of ten, one with more than `impliedZeros` zeros left out at the end with a
positive power, and everything else in full.  A zero is always `0`.
-/
import SchoolFees.Decimal.Basic

namespace SchoolFees

namespace Decimal

/-! ### Reading -/

/-- The marks that introduce a power of ten. -/
def isExponentMark (c : Char) : Bool := c == 'e' || c == 'E'

/-- Takes a leading sign off, if there is one. -/
def splitSign : List Char → Bool × List Char
  | '-' :: rest => (true, rest)
  | '+' :: rest => (false, rest)
  | cs => (false, cs)

/-- The value of a signed number whose digits are `digits`. -/
def signed (negative : Bool) (digits : List Char) : Int :=
  let size : Int := Nat.ofDigitChars 10 digits 0
  if negative then -size else size

/-- A power of ten: an optional sign and at least one digit. -/
def exponentOfChars? (cs : List Char) : Option Int :=
  let (negative, digits) := splitSign cs
  if !digits.isEmpty && digits.all Char.isDigit then some (signed negative digits) else none

/-- A coefficient: an optional sign and at least one digit, with underscores anywhere but first. -/
def coeffOfChars? (cs : List Char) : Option Int :=
  let (negative, digits) := splitSign cs
  if digits.head?.any Char.isDigit && digits.all (fun c => c.isDigit || c == '_') then
    some (signed negative (digits.filter (· != '_')))
  else none

/-- The scales that a written amount can ask for. -/
def ScaleInRange (scale : Int) : Prop := -2 ^ (63 : Nat) ≤ scale ∧ scale < 2 ^ (63 : Nat)

instance (scale : Int) : Decidable (ScaleInRange scale) := inferInstanceAs (Decidable (_ ∧ _))

/-- Reads an amount from its characters. -/
def ofChars? (cs : List Char) : Option Decimal := do
  let base := cs.takeWhile (!isExponentMark ·)
  let exponent ← match cs.dropWhile (!isExponentMark ·) with
    | [] => some 0
    | _ :: power => exponentOfChars? power
  let whole := base.takeWhile (· != '.')
  let fraction := (base.dropWhile (· != '.')).drop 1
  let coeff ← coeffOfChars? (whole ++ fraction)
  let scale := ((fraction.filter (· != '_')).length : Int) - exponent
  if ScaleInRange scale then some ⟨coeff, scale⟩ else none

/-- Reads an amount. -/
def ofText? (text : String) : Option Decimal := ofChars? text.toList

/-! ### Writing -/

/-- How many zeros may stand between the point and the first digit. -/
def leadingZeros : Int := 5

/-- How many zeros left out at the end are written out. -/
def impliedZeros : Int := 15

/-- The digits `ds` with the last `places` of them behind the point. -/
def pointed (ds : List Char) (places : Nat) : List Char :=
  if places < ds.length then
    ds.take (ds.length - places) ++ '.' :: ds.drop (ds.length - places)
  else '0' :: '.' :: (List.replicate (places - ds.length) '0' ++ ds)

/-- The digits `ds` with the point behind the first of them, left out if that is all. -/
def leading (ds : List Char) : List Char :=
  if ds.length ≤ 1 then ds else pointed ds (ds.length - 1)

/-- The digits `ds`, which are those of a number other than zero, written at a scale. -/
def magnitudeChars (ds : List Char) (scale : Int) : List Char :=
  if 0 < scale then
    if leadingZeros < scale - ds.length then
      leading ds ++ 'E' :: '-' :: Nat.toDigits 10 (scale + 1 - ds.length).toNat
    else pointed ds scale.toNat
  else if -scale ≤ impliedZeros then ds ++ List.replicate (-scale).toNat '0'
  else ds ++ 'e' :: '+' :: Nat.toDigits 10 (-scale).toNat

/-- The characters of a written amount. -/
def toChars (d : Decimal) : List Char :=
  if d.coeff = 0 then ['0']
  else
    let size := magnitudeChars (Nat.toDigits 10 d.coeff.natAbs) d.scale
    if d.coeff < 0 then '-' :: size else size

/-- Writes an amount. -/
def toText (d : Decimal) : String := String.ofList d.toChars

instance : ToString Decimal := ⟨toText⟩

end Decimal

end SchoolFees

/-
Decimal amounts.

A decimal is a whole coefficient together with a scale, and is worth the
coefficient with its point moved `scale` places to the left.  The same worth has
many such pairs, `1.5` and `1.50` among them, and the pair is kept because it is
what a written amount shows.  Two amounts are therefore *equal* (`≈`) when they
are worth the same, which is weaker than being the same pair.

Every operation below says which scale it leaves behind.  Differences and aligned
sums are exact and take the wider scale; the ordinary sum and the product treat a
zero and a plain one specially, which changes the scale of the answer and never
its worth.
-/
import SchoolFees.Powers

namespace SchoolFees

/-- A decimal amount, worth `coeff · 10 ^ (-scale)`. -/
structure Decimal where
  /-- All digits of the amount, with its sign. -/
  coeff : Int
  /-- How many of the digits stand behind the point; below zero, how many zeros are left out. -/
  scale : Int
deriving DecidableEq

namespace Decimal

/-- A whole amount, with nothing behind the point. -/
def ofInt (n : Int) : Decimal := ⟨n, 0⟩

instance (n : Nat) : OfNat Decimal n := ⟨ofInt n⟩

instance : Inhabited Decimal := ⟨0⟩

/-- What a decimal is worth. -/
def toRat (d : Decimal) : Rat := d.coeff * (10 : Rat) ^ (-d.scale)

/-! ### Scales -/

/-- The coefficient that `d` has at a scale no smaller than its own. -/
def coeffAt (d : Decimal) (scale : Int) : Int := d.coeff * 10 ^ (scale - d.scale).toNat

/-- Writes `places` more zeros behind the point. -/
def widen (d : Decimal) (places : Nat) : Decimal := ⟨d.coeff * 10 ^ places, d.scale + places⟩

/-- How many zeros a positive number ends in. -/
def trailingZeros (n : Nat) : Nat :=
  if 0 < n ∧ n % 10 = 0 then trailingZeros (n / 10) + 1 else 0

/-- A number can be divided by the power of ten that its zeros say. -/
theorem pow_trailingZeros_dvd (n : Nat) : 10 ^ trailingZeros n ∣ n := by
  fun_induction trailingZeros n with
  | case1 n h ih =>
    rw [Nat.pow_succ, ← Nat.mul_div_cancel' (Nat.dvd_of_mod_eq_zero h.2), Nat.mul_comm 10]
    simp only [Nat.mul_div_cancel _ (show 0 < 10 by decide)]
    exact Nat.mul_dvd_mul_right ih 10
  | case2 n h => simp

/-- Strikes the zeros at the end of the coefficient, also those in front of the point. -/
def normalize (d : Decimal) : Decimal :=
  if d.coeff = 0 then 0
  else
    let zeros := trailingZeros d.coeff.natAbs
    ⟨d.coeff.tdiv (10 ^ zeros), d.scale - zeros⟩

/-- The power of ten just above the leading digit; a zero counts as one digit. -/
def leadingPlace (d : Decimal) : Int := (Nat.toDigits 10 d.coeff.natAbs).length - d.scale

/-! ### Sign -/

/-- The amount with the opposite sign, at the same scale. -/
def neg (d : Decimal) : Decimal := ⟨-d.coeff, d.scale⟩

instance : Neg Decimal := ⟨neg⟩

/-- The size of an amount, at the same scale. -/
def abs (d : Decimal) : Decimal := ⟨d.coeff.natAbs, d.scale⟩

/-! ### Order

Amounts are ordered by worth.  The sign decides first and the place of the leading
digit second, so that digits are lined up only for amounts of about the same size,
however far apart their scales are.
-/

/-- Compares two amounts by what they are worth. -/
def compare (a b : Decimal) : Ordering :=
  (Ord.compare a.coeff.sign b.coeff.sign).then <|
    if a.coeff = 0 then .eq
    else
      let places := Ord.compare a.leadingPlace b.leadingPlace
      let scale := max a.scale b.scale
      (if a.coeff < 0 then places.swap else places).then <|
        Ord.compare (a.coeffAt scale) (b.coeffAt scale)

instance : Ord Decimal := ⟨compare⟩

instance : LE Decimal := leOfOrd

instance : LT Decimal := ltOfOrd

instance (a b : Decimal) : Decidable (a ≤ b) :=
  inferInstanceAs (Decidable ((compare a b).isLE = true))

instance (a b : Decimal) : Decidable (a < b) := inferInstanceAs (Decidable (compare a b = .lt))

/-- Two amounts are equal when they are worth the same, whatever their scales. -/
instance : HasEquiv Decimal := ⟨fun a b => compare a b = .eq⟩

instance (a b : Decimal) : Decidable (a ≈ b) := inferInstanceAs (Decidable (compare a b = .eq))

/-! ### Sums and differences -/

/-- The exact sum at the wider of the two scales. -/
def addAligned (a b : Decimal) : Decimal :=
  let scale := max a.scale b.scale
  ⟨a.coeffAt scale + b.coeffAt scale, scale⟩

/-- The exact difference at the wider of the two scales. -/
def sub (a b : Decimal) : Decimal :=
  let scale := max a.scale b.scale
  ⟨a.coeffAt scale - b.coeffAt scale, scale⟩

instance : Sub Decimal := ⟨sub⟩

/-- How many places a zero can add to the other operand of a sum. -/
def zeroReach : Nat := 15

/-- `d` written towards a wider scale, as far as a zero of that scale reaches. -/
def widenTowards (d : Decimal) (scale : Int) : Decimal :=
  d.widen (min zeroReach (scale - d.scale).toNat)

/-- The exact sum.  A zero operand hands the other one back, widened as far as the zero reaches;
otherwise the sum has the wider scale. -/
def add (a b : Decimal) : Decimal :=
  if b.coeff = 0 then a.widenTowards b.scale
  else if a.coeff = 0 then b.widenTowards a.scale
  else a.addAligned b

instance : Add Decimal := ⟨add⟩

/-- The exact sum of a list, at the widest of its scales. -/
def sum (ds : List Decimal) : Decimal := ds.foldl addAligned 0

/-! ### Products -/

/-- The largest scale at which a one is still recognised as such. -/
def plainOneScale : Int := 38

/-- A one written with at most `plainOneScale` zeros behind the point. -/
def IsPlainOne (d : Decimal) : Prop :=
  0 ≤ d.scale ∧ d.scale ≤ plainOneScale ∧ d.coeff = 10 ^ d.scale.toNat

instance (d : Decimal) : Decidable d.IsPlainOne := inferInstanceAs (Decidable (_ ∧ _ ∧ _))

/-- The exact product.  A factor that is plainly one hands the other one back normalized;
otherwise the scales add up. -/
def mul (a b : Decimal) : Decimal :=
  if a.IsPlainOne then b.normalize
  else if b.IsPlainOne then a.normalize
  else ⟨a.coeff * b.coeff, a.scale + b.scale⟩

instance : Mul Decimal := ⟨mul⟩

end Decimal

end SchoolFees

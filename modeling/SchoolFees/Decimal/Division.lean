/-
Division of decimal amounts.

Few quotients end in decimal, so a quotient is worked out digit by digit, like a
long division on paper: the digits found so far, what is left to divide, and how
many places have been opened behind the point.  Digits are appended until nothing
is left or `significantDigits` of them are there; a quotient that has not ended by
then is rounded on its next digit, a half away from zero.

`Quotient.next` is one line of that long division.  Every line stands for the same
dividend (`StandsFor`): `digits * divisor + rest` is the dividend moved `places` to the
left, which is all that is needed to say how far a quotient is from the exact one.
-/
import SchoolFees.Decimal.Basic

namespace SchoolFees

/-- A long division in progress. -/
structure Quotient where
  /-- The digits found so far. -/
  digits : Nat
  /-- What is left of the dividend below those digits. -/
  rest : Nat
  /-- How many digits were appended to the whole part. -/
  places : Nat
deriving DecidableEq

namespace Quotient

/-- How many digits a quotient that does not end is worked out to. -/
def significantDigits : Nat := 100

/-- The whole part of a quotient and what it leaves. -/
def start (dividend divisor : Nat) : Quotient := ⟨dividend / divisor, dividend % divisor, 0⟩

/-- Appends one digit. -/
def next (divisor : Nat) (q : Quotient) : Quotient :=
  ⟨10 * q.digits + 10 * q.rest / divisor, 10 * q.rest % divisor, q.places + 1⟩

/-- A line of the division stands for `dividend`, moved to the left by the digits appended. -/
def StandsFor (q : Quotient) (dividend divisor : Nat) : Prop :=
  q.digits * divisor + q.rest = dividend * 10 ^ q.places

theorem standsFor_start (dividend divisor : Nat) :
    (start dividend divisor).StandsFor dividend divisor := by
  simp [StandsFor, start, Nat.div_add_mod']

/-- Appending a digit loses nothing. -/
theorem StandsFor.next {q : Quotient} {dividend divisor : Nat} (h : q.StandsFor dividend divisor) :
    (q.next divisor).StandsFor dividend divisor := by
  have parted := Nat.div_add_mod' (10 * q.rest) divisor
  simp only [StandsFor, Quotient.next, Nat.add_mul, Nat.pow_succ] at h ⊢
  rw [← Nat.mul_assoc dividend, ← h, Nat.mul_assoc]
  omega

theorem rest_next_lt {divisor : Nat} (pos : 0 < divisor) (q : Quotient) :
    (q.next divisor).rest < divisor := Nat.mod_lt _ pos

/-- Nothing is left, or there are digits enough. -/
def IsDone (q : Quotient) : Prop := q.rest = 0 ∨ 10 ^ (significantDigits - 1) ≤ q.digits

instance (q : Quotient) : Decidable q.IsDone := inferInstanceAs (Decidable (_ ∨ _))

/-- Appends digits until the division is done, at most `steps` of them. -/
def extend (divisor : Nat) : (steps : Nat) → Quotient → Quotient
  | 0, q => q
  | steps + 1, q => if q.IsDone then q else extend divisor steps (q.next divisor)

theorem StandsFor.extend {dividend divisor : Nat} (steps : Nat) {q : Quotient}
    (h : q.StandsFor dividend divisor) : (q.extend divisor steps).StandsFor dividend divisor := by
  induction steps generalizing q with
  | zero => exact h
  | succ steps ih =>
    rw [Quotient.extend]
    split
    · exact h
    · exact ih h.next

/-- The digits rounded on the digit that would come next; five and above round up. -/
def rounded (divisor : Nat) (q : Quotient) : Nat :=
  if 5 ≤ 10 * q.rest / divisor then q.digits + 1 else q.digits

end Quotient

/-- How many zeros `dividend` needs at its end to reach `divisor`, looking at most `steps` far. -/
def leadingShift (divisor : Nat) : (steps : Nat) → (dividend : Nat) → Nat
  | 0, _ => 0
  | steps + 1, dividend =>
    if dividend < divisor then leadingShift divisor steps (10 * dividend) + 1 else 0

namespace Decimal

/-- The quotient of two positive coefficients: its digits, and how many of them stand behind the
point.  The dividend is first moved to the left until the quotient starts with a digit other than
zero; `10 ^ steps` exceeds a divisor of that many binary digits, so the search always ends. -/
def divideCoeffs (dividend divisor : Nat) : Nat × Nat :=
  let shift := leadingShift divisor (divisor.log2 + 1) dividend
  let first := Quotient.start (dividend * 10 ^ shift) divisor
  let last := first.extend divisor Quotient.significantDigits
  (last.rounded divisor, shift + last.places)

/-- The quotient, exact when it ends within `Quotient.significantDigits` digits and rounded to that
many otherwise.  A zero dividend and a divisor that is plainly one leave the dividend as it is, and
equal coefficients give a one.  A zero divisor is not divided by; its quotient is zero. -/
def div (a b : Decimal) : Decimal :=
  if a.coeff = 0 ∨ b.IsPlainOne then a
  else if b.coeff = 0 then 0
  else if a.coeff = b.coeff then ⟨1, a.scale - b.scale⟩
  else
    let (digits, places) := divideCoeffs a.coeff.natAbs b.coeff.natAbs
    ⟨a.coeff.sign * b.coeff.sign * digits, a.scale - b.scale + places⟩

instance : Div Decimal := ⟨div⟩

end Decimal

end SchoolFees

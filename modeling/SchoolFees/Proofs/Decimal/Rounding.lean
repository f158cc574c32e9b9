/-
How far a rounded quotient is off.

A quotient that does not end is rounded behind the digits that are kept, so it is off by half
a unit of its last digit at most.  It has at least as many digits as are kept, and so that
unit is small against the quotient itself, wherever its point stands.

The bound is said of products and not of quotients (`Near`): multiplied by its divisor again, a
quotient is near the dividend.  Then no coefficient has to be divided, and signs and powers of
ten come in as a common factor (`Near.mul_right`).  Numbers that are near one another have one
sign (`Near.sign_eq`), which is all there is to say about the sign of a quotient.
-/
import Mathlib.Data.Sign.Basic
import SchoolFees.Proofs.Decimal.LongDivision

namespace SchoolFees

namespace Decimal

variable {x y : Rat}

/-! ### Numbers that are near one another -/

/-- `x` stands for `y` with a hundred digits that count: it is off by half a unit of the last of
them at most. -/
def Near (x y : Rat) : Prop := |x - y| ≤ 5 / 10 ^ 100 * |x|

theorem near_of_eq (h : x = y) : Near x y := by
  unfold Near
  rw [h, sub_self, abs_zero]
  positivity

theorem Near.mul_right (h : Near x y) (factor : Rat) : Near (x * factor) (y * factor) := by
  unfold Near at *
  rw [← sub_mul, abs_mul, abs_mul, ← mul_assoc]
  exact mul_le_mul_of_nonneg_right h (abs_nonneg factor)

/-- Half of the number would have to be wrong for its sign to be. -/
theorem Near.sign_eq (h : Near x y) : SignType.sign x = SignType.sign y := by
  have half : |x - y| ≤ 1 / 2 * |x| := by
    refine h.trans (mul_le_mul_of_nonneg_right ?_ (abs_nonneg x))
    norm_num
  obtain ⟨above, below⟩ := abs_le.mp half
  rcases lt_trichotomy x 0 with neg | rfl | pos
  · rw [abs_of_neg neg] at above below
    rw [sign_neg neg, sign_neg (by linarith)]
  · rw [abs_zero] at above below
    have zero : y = 0 := by linarith
    rw [zero]
  · rw [abs_of_pos pos] at above below
    rw [sign_pos pos, sign_pos (by linarith)]

end Decimal

/-! ### The last line -/

namespace Quotient

variable {q : Quotient} {dividend divisor : Nat}

/-- Rounding on the next digit is off by half a divisor at most. -/
theorem Last.abs_rounded_sub_le (last : q.Last dividend divisor) :
    |(q.rounded divisor * divisor - dividend * 10 ^ q.places : Rat)| ≤ divisor / 2 := by
  have stands : (q.digits * divisor + q.rest : Rat) = dividend * 10 ^ q.places := by
    exact_mod_cast last.standsFor
  have pos : 0 < divisor := Nat.zero_lt_of_lt last.rest_lt
  have digit := Nat.le_div_iff_mul_le (x := 5) (y := 10 * q.rest) pos
  rw [← stands, rounded]
  split
  · rename_i up
    have half : (divisor : Rat) ≤ 2 * q.rest := by exact_mod_cast (by omega : divisor ≤ 2 * q.rest)
    have rest : (q.rest : Rat) ≤ divisor := by exact_mod_cast last.rest_lt.le
    have off : ((q.digits + 1 : Nat) * divisor - (q.digits * divisor + q.rest) : Rat) =
        divisor - q.rest := by
      push_cast
      ring
    rw [off, abs_of_nonneg (by linarith)]
    linarith
  · rename_i down
    have half : (2 * q.rest : Rat) ≤ divisor := by exact_mod_cast (by omega : 2 * q.rest ≤ divisor)
    rw [sub_add_cancel_left, abs_neg, abs_of_nonneg (Nat.cast_nonneg _)]
    linarith

theorem digits_le_rounded (q : Quotient) (divisor : Nat) : q.digits ≤ q.rounded divisor := by
  unfold rounded
  split
  · exact Nat.le_succ _
  · exact le_rfl

/-- **The last line is near the dividend once it is rounded.** -/
theorem Last.near (last : q.Last dividend divisor) :
    Decimal.Near (q.rounded divisor * divisor) (dividend * 10 ^ q.places) := by
  by_cases even : q.rest = 0
  · -- Nothing was left, so nothing was rounded.
    have stands := last.standsFor
    rw [StandsFor, even, Nat.add_zero] at stands
    rw [rounded_of_rest_eq_zero even]
    exact Decimal.near_of_eq (by exact_mod_cast stands)
  · -- Half a divisor is half a unit of the last digit, and there are digits enough.
    have enough : (10 ^ (significantDigits - 1) : Rat) ≤ q.rounded divisor := by
      exact_mod_cast (last.done.resolve_left even).trans (digits_le_rounded q divisor)
    have size : (0 : Rat) ≤ q.rounded divisor * divisor := by positivity
    unfold Decimal.Near
    rw [abs_of_nonneg size]
    calc |(q.rounded divisor * divisor - dividend * 10 ^ q.places : Rat)|
        ≤ divisor / 2 := last.abs_rounded_sub_le
      _ = 5 / 10 ^ 100 * (10 ^ (significantDigits - 1) * divisor) := by
        norm_num [significantDigits]
        ring
      _ ≤ 5 / 10 ^ 100 * (q.rounded divisor * divisor) := by gcongr

end Quotient

/-! ### Amounts -/

namespace Decimal

variable {a b : Decimal} {dividend divisor : Nat}

theorem near_divideCoeffs (pos : 0 < dividend) (pos' : 0 < divisor) :
    Near ((divideCoeffs dividend divisor).1 * divisor)
      (dividend * 10 ^ (divideCoeffs dividend divisor).2) := by
  obtain ⟨shift, last, known, quotient⟩ := exists_last_of_divideCoeffs pos pos'
  have near := known.near
  push_cast at near
  rwa [quotient, pow_add, ← mul_assoc]

/-- **Multiplied by the divisor, a quotient is near the dividend**, however many digits it has. -/
theorem near_div (nonzero : b.coeff ≠ 0) : Near ((a / b).toRat * b.toRat) a.toRat := by
  show Near ((Decimal.div a b).toRat * b.toRat) a.toRat
  unfold Decimal.div
  by_cases whole : a.coeff = 0 ∨ b.IsPlainOne
  · rw [if_pos whole]
    rcases whole with zero | one
    · exact near_of_eq (by rw [toRat_eq_zero_iff.mpr zero, zero_mul])
    · exact near_of_eq (by rw [one.toRat_eq_one, mul_one])
  rw [if_neg whole, if_neg nonzero]
  by_cases same : a.coeff = b.coeff
  · rw [if_pos same]
    refine near_of_eq ?_
    rw [toRat_div_of_coeff_eq nonzero same, div_mul_cancel₀ _ (mt toRat_eq_zero_iff.mp nonzero)]
  rw [if_neg same]
  have pos : 0 < a.coeff.natAbs := Int.natAbs_pos.mpr fun h => whole (.inl h)
  have pos' : 0 < b.coeff.natAbs := Int.natAbs_pos.mpr nonzero
  have near := near_divideCoeffs pos pos'
  generalize divideCoeffs a.coeff.natAbs b.coeff.natAbs = quotient at near ⊢
  obtain ⟨digits, places⟩ := quotient
  -- The sign of the dividend and the place of its point are factors of both sides.
  have product : ((a.coeff.sign * b.coeff.sign * digits : Int) * b.coeff : Rat) =
      digits * b.coeff.natAbs * a.coeff.sign := by
    rw [← Int.cast_mul, signed_mul, mul_comm, Int.cast_mul, Int.cast_natCast, Nat.cast_mul]
  have dividend : (a.coeff : Rat) = a.coeff.natAbs * a.coeff.sign := by
    rw [mul_comm, ← Int.cast_natCast, ← Int.cast_mul, Int.sign_mul_natAbs]
  have scaled := (near.mul_right a.coeff.sign).mul_right (10 ^ (-(a.scale + places)))
  show Near ((⟨a.coeff.sign * b.coeff.sign * digits, a.scale - b.scale + places⟩ : Decimal).toRat *
    b.toRat) a.toRat
  rw [toRat_quotient_mul, toRat_eq_moved a places, product, dividend, zpow_natCast,
    mul_right_comm (a.coeff.natAbs : Rat)]
  exact scaled

end Decimal

end SchoolFees

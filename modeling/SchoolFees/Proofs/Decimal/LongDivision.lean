/-
What a quotient is worth.

A long division stops when nothing is left or when it has found as many digits as are
kept.  It always gets that far (`isDone_extend`): the first line has a digit other than
zero, because the dividend was moved up to the divisor, and every further line appends
one digit.

Where it stops decides what the quotient is worth.  If the exact quotient ends within
the digits that are kept, the division cannot stop early with something left: at that
line the exact quotient, moved as far to the left as the line is, would lie strictly
between two whole numbers, so some of its digits would still be to come, and there are
digits enough already.  So the division comes out even, nothing is rounded, and the
quotient is exact (`toRat_div_of_ends`).
-/
import SchoolFees.Decimal.Division
import SchoolFees.Proofs.Decimal.Worth

namespace SchoolFees

/-! ### The first line -/

/-- The shift that is found moves the dividend up to the divisor, if one within reach does. -/
theorem le_leadingShift {divisor steps dividend : Nat} (reach : divisor ≤ dividend * 10 ^ steps) :
    divisor ≤ dividend * 10 ^ leadingShift divisor steps dividend := by
  induction steps generalizing dividend with
  | zero => simpa [leadingShift] using reach
  | succ steps ih =>
    rw [leadingShift]
    split
    · have shifted : ∀ n, dividend * 10 ^ (n + 1) = 10 * dividend * 10 ^ n := by
        intro n
        rw [Nat.pow_succ', ← Nat.mul_assoc, Nat.mul_comm dividend]
      rw [shifted] at reach ⊢
      exact ih reach
    · omega

/-- A number is below the power of ten with as many zeros as it has binary digits. -/
theorem lt_pow_log2_succ (n : Nat) : n < 10 ^ (n.log2 + 1) :=
  Nat.lt_log2_self.trans_le (Nat.pow_le_pow_left (by decide) _)

theorem le_shifted {dividend : Nat} (pos : 0 < dividend) (divisor : Nat) :
    divisor ≤ dividend * 10 ^ leadingShift divisor (divisor.log2 + 1) dividend :=
  le_leadingShift <| (lt_pow_log2_succ divisor).le.trans (Nat.le_mul_of_pos_left _ pos)

namespace Quotient

variable {q : Quotient} {dividend divisor : Nat}

/-! ### The last line -/

theorem le_digits_next (divisor : Nat) (q : Quotient) : 10 * q.digits ≤ (q.next divisor).digits :=
  Nat.le_add_right _ _

/-- With a first digit and steps enough, the division gets done. -/
theorem isDone_extend {steps : Nat}
    (digits : 10 ^ (significantDigits - 1) ≤ q.digits * 10 ^ steps) :
    (q.extend divisor steps).IsDone := by
  induction steps generalizing q with
  | zero => exact .inr (by rwa [Nat.pow_zero, Nat.mul_one] at digits)
  | succ steps ih =>
    rw [extend]
    split
    · assumption
    · refine ih ?_
      calc 10 ^ (significantDigits - 1) ≤ q.digits * 10 ^ (steps + 1) := digits
        _ = 10 * q.digits * 10 ^ steps := by
          rw [Nat.pow_succ', ← Nat.mul_assoc, Nat.mul_comm q.digits]
        _ ≤ (q.next divisor).digits * 10 ^ steps :=
          Nat.mul_le_mul_right _ (le_digits_next divisor q)

theorem rest_extend_lt {steps : Nat} (small : q.rest < divisor) :
    (q.extend divisor steps).rest < divisor := by
  induction steps generalizing q with
  | zero => exact small
  | succ steps ih =>
    rw [extend]
    split
    · exact small
    · exact ih (rest_next_lt (Nat.zero_lt_of_lt small) q)

/-- What is known of the line that a division stops at. -/
structure Last (q : Quotient) (dividend divisor : Nat) : Prop where
  standsFor : q.StandsFor dividend divisor
  rest_lt : q.rest < divisor
  done : q.IsDone

/-- Nothing left, nothing to round. -/
theorem rounded_of_rest_eq_zero (even : q.rest = 0) : q.rounded divisor = q.digits := by
  rw [rounded, even, Nat.mul_zero, Nat.zero_div]
  rfl

/-- **A quotient that ends comes out even.**  If the exact quotient has no more digits than are
kept, wherever its point stands, the last line leaves nothing. -/
theorem Last.rest_eq_zero (last : q.Last dividend divisor) {digits : Nat} {point : Int}
    (few : digits < 10 ^ significantDigits)
    (ends : (dividend : Rat) = digits * 10 ^ point * divisor) : q.rest = 0 := by
  have stands : (q.digits * divisor + q.rest : Rat) =
      digits * 10 ^ (point + q.places) * divisor := by
    have h : (q.digits * divisor + q.rest : Rat) = dividend * 10 ^ q.places := by
      exact_mod_cast last.standsFor
    rw [h, ends, zpow_add₀ (by norm_num), zpow_natCast]
    ring
  by_cases whole : 0 ≤ point + q.places
  · -- The divisor goes into both sides, and what is left is smaller than it.
    lift point + q.places to Nat using whole with places
    have stands : q.digits * divisor + q.rest = digits * 10 ^ places * divisor := by
      rw [zpow_natCast] at stands
      exact_mod_cast stands
    have remainders := congrArg (· % divisor) stands
    simp only [Nat.mul_add_mod', Nat.mod_eq_of_lt last.rest_lt, Nat.mul_mod_left] at remainders
    exact remainders
  · -- Digits would be missing, but there are digits enough.
    by_contra some_left
    have enough : (10 ^ (significantDigits - 1) : Rat) ≤ q.digits := by
      exact_mod_cast last.done.resolve_left some_left
    have divisor_pos : (0 : Rat) < divisor := by
      exact_mod_cast Nat.zero_lt_of_lt last.rest_lt
    have behind : (10 : Rat) ^ (point + q.places) ≤ 10 ^ (-1 : Int) :=
      zpow_le_zpow_right₀ (by norm_num) (by omega)
    have few : (digits : Rat) < 10 ^ significantDigits := by exact_mod_cast few
    have short : (10 ^ (significantDigits - 1) : Rat) < 10 ^ (significantDigits - 1) :=
      calc (10 ^ (significantDigits - 1) : Rat) ≤ q.digits := enough
        _ ≤ digits * 10 ^ (point + q.places) := by
          refine le_of_mul_le_mul_right ?_ divisor_pos
          rw [← stands]
          exact le_add_of_nonneg_right (Nat.cast_nonneg _)
        _ ≤ digits * 10 ^ (-1 : Int) := mul_le_mul_of_nonneg_left behind (Nat.cast_nonneg _)
        _ < 10 ^ significantDigits * 10 ^ (-1 : Int) :=
          mul_lt_mul_of_pos_right few (Decimal.zpow_ten_pos _)
        _ = 10 ^ (significantDigits - 1) := by norm_num [significantDigits]
    exact lt_irrefl _ short

end Quotient

namespace Decimal

variable {a b d : Decimal} {dividend divisor : Nat}

/-- How many digits an amount has, not counting zeros at either end. -/
def significantDigits (d : Decimal) : Nat := (Nat.toDigits 10 d.normalize.coeff.natAbs).length

/-! ### Coefficients -/

/-- The quotient of two coefficients is that of a last line, rounded. -/
theorem exists_last_of_divideCoeffs (pos : 0 < dividend) (pos' : 0 < divisor) :
    ∃ shift, ∃ last : Quotient, last.Last (dividend * 10 ^ shift) divisor ∧
      divideCoeffs dividend divisor = (last.rounded divisor, shift + last.places) := by
  have reached := le_shifted pos divisor
  refine ⟨_, _, ⟨(Quotient.standsFor_start _ _).extend _, ?_, ?_⟩, rfl⟩
  · exact Quotient.rest_extend_lt (Nat.mod_lt _ pos')
  · refine Quotient.isDone_extend ?_
    have digit : 0 < dividend * 10 ^ leadingShift divisor (divisor.log2 + 1) dividend / divisor :=
      Nat.div_pos reached pos'
    exact (Nat.pow_le_pow_right (by decide) (Nat.sub_le _ _)).trans (Nat.le_mul_of_pos_left _ digit)

/-- A quotient of coefficients that ends is exact. -/
theorem divideCoeffs_of_ends (pos : 0 < dividend) (pos' : 0 < divisor) {digits : Nat} {point : Int}
    (few : digits < 10 ^ Quotient.significantDigits)
    (ends : (dividend : Rat) = digits * 10 ^ point * divisor) :
    (divideCoeffs dividend divisor).1 * divisor =
      dividend * 10 ^ (divideCoeffs dividend divisor).2 := by
  obtain ⟨shift, last, known, quotient⟩ := exists_last_of_divideCoeffs pos pos'
  have ends' : ((dividend * 10 ^ shift : Nat) : Rat) = digits * 10 ^ (point + shift) * divisor := by
    push_cast
    rw [ends, zpow_add₀ (by norm_num), zpow_natCast]
    ring
  have even := known.rest_eq_zero few ends'
  have stands := known.standsFor
  rw [Quotient.StandsFor, even, Nat.add_zero] at stands
  rw [quotient, Quotient.rounded_of_rest_eq_zero even, stands, Nat.pow_add, Nat.mul_assoc]

/-! ### Amounts -/

/-- The digits of an amount, and where its point stands. -/
theorem exists_digits (d : Decimal) : ∃ digits : Nat, ∃ point : Int,
    digits < 10 ^ d.significantDigits ∧ |d.toRat| = digits * 10 ^ point := by
  refine ⟨d.normalize.coeff.natAbs, -d.normalize.scale, ?_, ?_⟩
  · exact (Nat.length_toDigits_le_iff (by decide) Nat.length_toDigits_pos).mp le_rfl
  · rw [← abs_toRat, toRat_normalize]

/-- An amount with more places opened behind its point. -/
theorem toRat_eq_moved (a : Decimal) (places : Int) :
    a.toRat = a.coeff * 10 ^ places * 10 ^ (-(a.scale + places)) := by
  rw [toRat, mul_assoc, ← zpow_add₀ (by norm_num)]
  congr 2
  omega

/-- A quotient multiplied by the divisor: the coefficients are, and the point is where that of the
dividend is. -/
theorem toRat_quotient_mul (a b : Decimal) (coeff places : Int) :
    (⟨coeff, a.scale - b.scale + places⟩ : Decimal).toRat * b.toRat =
      coeff * b.coeff * 10 ^ (-(a.scale + places)) := by
  rw [toRat_mk, toRat, mul_mul_mul_comm, ← zpow_add₀ (by norm_num)]
  congr 2
  omega

/-- Multiplied by the divisor, a quotient is the dividend again. -/
theorem toRat_eq_div {coeff places : Int} (nonzero : b.coeff ≠ 0)
    (h : (coeff * b.coeff : Rat) = a.coeff * 10 ^ places) :
    (⟨coeff, a.scale - b.scale + places⟩ : Decimal).toRat = a.toRat / b.toRat := by
  rw [eq_div_iff (mt toRat_eq_zero_iff.mp nonzero), toRat_quotient_mul, h, ← toRat_eq_moved]

/-- Amounts with one coefficient differ in the places of their points alone. -/
theorem toRat_div_of_coeff_eq (nonzero : b.coeff ≠ 0) (same : a.coeff = b.coeff) :
    (⟨1, a.scale - b.scale⟩ : Decimal).toRat = a.toRat / b.toRat := by
  rw [← Int.add_zero (a.scale - b.scale)]
  refine toRat_eq_div nonzero ?_
  rw [same, Int.cast_one, one_mul, zpow_zero, mul_one]

/-- The digits of a quotient get the signs of dividend and divisor, and multiplied by the divisor
they keep that of the dividend. -/
theorem signed_mul (digits : Nat) (m n : Int) :
    m.sign * n.sign * digits * n = m.sign * (digits * n.natAbs : Nat) :=
  calc m.sign * n.sign * digits * n = m.sign * (digits * (n.sign * n)) := by ring
    _ = m.sign * (digits * n.natAbs : Nat) := by rw [Int.sign_mul_self_eq_natAbs, Nat.cast_mul]

theorem signed_mul_coeff {digits : Nat} {m n : Int} {places : Nat}
    (h : digits * n.natAbs = m.natAbs * 10 ^ places) :
    m.sign * n.sign * digits * n = m * 10 ^ places :=
  calc m.sign * n.sign * digits * n = m.sign * (digits * n.natAbs : Nat) := signed_mul digits m n
    _ = m.sign * m.natAbs * 10 ^ places := by rw [h]; push_cast; ring
    _ = m * 10 ^ places := by rw [Int.sign_mul_natAbs]

/-- Coefficients have the same digits in their quotient as the amounts. -/
theorem natAbs_coeff_of_worth {digits : Nat} {point : Int} (nonzero : b.coeff ≠ 0)
    (worth : |a.toRat / b.toRat| = digits * 10 ^ point) :
    (a.coeff.natAbs : Rat) = digits * 10 ^ (point + (a.scale - b.scale)) * b.coeff.natAbs := by
  rw [abs_div, div_eq_iff (abs_ne_zero.mpr (mt toRat_eq_zero_iff.mp nonzero)), abs_toRat,
    abs_toRat] at worth
  calc (a.coeff.natAbs : Rat)
      = a.coeff.natAbs * 10 ^ (-a.scale) * 10 ^ a.scale := by
        rw [mul_assoc, ← zpow_add₀ (by norm_num), neg_add_cancel, zpow_zero, mul_one]
    _ = digits * (10 ^ point * (10 ^ a.scale * 10 ^ (-b.scale))) * b.coeff.natAbs := by
        rw [worth]
        ring
    _ = digits * 10 ^ (point + (a.scale - b.scale)) * b.coeff.natAbs := by
        rw [← zpow_add₀ (by norm_num), ← zpow_add₀ (by norm_num), ← sub_eq_add_neg]

/-- **A quotient that ends is exact.**  Where the exact quotient has no more digits than are kept,
dividing finds it. -/
theorem toRat_div_of_ends (few : d.significantDigits ≤ Quotient.significantDigits)
    (ends : d.toRat = a.toRat / b.toRat) : (a / b).toRat = d.toRat := by
  show (Decimal.div a b).toRat = _
  unfold Decimal.div
  rw [ends]
  by_cases whole : a.coeff = 0 ∨ b.IsPlainOne
  · rw [if_pos whole]
    rcases whole with zero | one
    · rw [toRat_eq_zero_iff.mpr zero, zero_div]
    · rw [one.toRat_eq_one, div_one]
  rw [if_neg whole]
  by_cases zero : b.coeff = 0
  · rw [if_pos zero, toRat_eq_zero_iff.mpr zero, div_zero, toRat_ofNat, Nat.cast_zero]
  rw [if_neg zero]
  by_cases same : a.coeff = b.coeff
  · rw [if_pos same]
    exact toRat_div_of_coeff_eq zero same
  rw [if_neg same]
  have pos : 0 < a.coeff.natAbs := Int.natAbs_pos.mpr fun h => whole (.inl h)
  have pos' : 0 < b.coeff.natAbs := Int.natAbs_pos.mpr zero
  refine toRat_eq_div zero ?_
  obtain ⟨digits, point, small, worth⟩ := exists_digits d
  have small : digits < 10 ^ Quotient.significantDigits :=
    small.trans_le (Nat.pow_le_pow_right (by decide) few)
  rw [ends] at worth
  have product := signed_mul_coeff
    (divideCoeffs_of_ends pos pos' small (natAbs_coeff_of_worth zero worth))
  rw [zpow_natCast]
  exact_mod_cast product

/-- The digits of an amount do not depend on where its point stands. -/
theorem significantDigits_mk (coeff scale scale' : Int) :
    (⟨coeff, scale⟩ : Decimal).significantDigits =
      (⟨coeff, scale'⟩ : Decimal).significantDigits := by
  unfold significantDigits normalize
  by_cases zero : coeff = 0
  · simp only [zero, if_true]
  · simp only [zero, if_false]

theorem toRat_hundred : (100 : Decimal).toRat = 100 := (toRat_ofInt 100).trans (by norm_num)

/-- Dividing by a hundred moves the point, and keeps the digits there are. -/
theorem toRat_div_hundred (few : d.significantDigits ≤ Quotient.significantDigits) :
    (d / 100).toRat = d.toRat / 100 := by
  have moved : (⟨d.coeff, d.scale + 2⟩ : Decimal).toRat = d.toRat / 100 := by
    rw [toRat_mk, toRat, neg_add, zpow_add₀ (by norm_num), ← mul_assoc, div_eq_mul_inv]
    norm_num
  rw [← moved]
  refine toRat_div_of_ends ?_ ?_
  · rwa [significantDigits_mk _ _ d.scale]
  · rw [moved, toRat_hundred]

/-! ### Sign -/

theorem zero_le_iff : 0 ≤ d ↔ 0 ≤ d.coeff := by
  rw [← toRat_nonneg_iff, ← not_lt, toRat_neg_iff, not_lt]

theorem zero_le_mul (ha : 0 ≤ a) (hb : 0 ≤ b) : 0 ≤ a * b := by
  rw [← toRat_nonneg_iff] at *
  rw [toRat_mul]
  exact mul_nonneg ha hb

/-- Amounts that are not below zero have such a quotient. -/
theorem zero_le_div (ha : 0 ≤ a) (hb : 0 ≤ b) : 0 ≤ a / b := by
  rw [zero_le_iff] at *
  show 0 ≤ (Decimal.div a b).coeff
  unfold Decimal.div
  split
  · exact ha
  split
  · exact le_rfl
  split
  · exact Int.one_nonneg
  · exact Int.mul_nonneg (Int.mul_nonneg (Int.sign_nonneg_iff.mpr ha) (Int.sign_nonneg_iff.mpr hb))
      (Int.natCast_nonneg _)

end Decimal

end SchoolFees

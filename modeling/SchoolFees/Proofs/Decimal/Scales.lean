/-
Amounts that differ in their scales.

Two amounts are equal (`≈`) when they are worth the same, and may then still be different
pairs.  Operations go by the pair: a product strikes zeros next to a plain one, a sum is
widened next to a zero, a quotient is worked out from the coefficients.  On equal operands
their answers are equal all the same.  For comparisons, sums, differences and products that
is so because the worth of the answer is known; for a quotient it is so as long as its
digits end before they are cut off.

What all pairs of one worth have in common is what is left of them without zeros at the
end.  `normalize` picks that pair (`normalize_eq_iff`), so how many digits an amount has
does not depend on its scale.
-/
import SchoolFees.Proofs.Decimal.LongDivision

namespace SchoolFees

namespace Decimal

variable {a a' b b' d : Decimal}

/-! ### Equal amounts -/

theorem equiv_refl (d : Decimal) : d ≈ d := equiv_iff.mpr rfl

theorem equiv_symm (h : a ≈ b) : b ≈ a := equiv_iff.mpr (equiv_iff.mp h).symm

theorem equiv_trans (h : a ≈ b) (h' : b ≈ d) : a ≈ d :=
  equiv_iff.mpr ((equiv_iff.mp h).trans (equiv_iff.mp h'))

theorem le_congr (ha : a ≈ a') (hb : b ≈ b') : a ≤ b ↔ a' ≤ b' := by
  rw [le_iff, le_iff, equiv_iff.mp ha, equiv_iff.mp hb]

theorem lt_congr (ha : a ≈ a') (hb : b ≈ b') : a < b ↔ a' < b' := by
  rw [lt_iff, lt_iff, equiv_iff.mp ha, equiv_iff.mp hb]

theorem add_congr (ha : a ≈ a') (hb : b ≈ b') : a + b ≈ a' + b' := by
  rw [equiv_iff, toRat_add, toRat_add, equiv_iff.mp ha, equiv_iff.mp hb]

theorem sub_congr (ha : a ≈ a') (hb : b ≈ b') : a - b ≈ a' - b' := by
  rw [equiv_iff, toRat_sub, toRat_sub, equiv_iff.mp ha, equiv_iff.mp hb]

theorem mul_congr (ha : a ≈ a') (hb : b ≈ b') : a * b ≈ a' * b' := by
  rw [equiv_iff, toRat_mul, toRat_mul, equiv_iff.mp ha, equiv_iff.mp hb]

theorem abs_congr (ha : a ≈ a') : a.abs ≈ a'.abs := by
  rw [equiv_iff, toRat_abs, toRat_abs, equiv_iff.mp ha]

/-! ### One pair for each worth -/

/-- All zeros at the end are counted. -/
theorem not_dvd_div_pow_trailingZeros {n : Nat} (pos : 0 < n) :
    ¬ 10 ∣ n / 10 ^ trailingZeros n := by
  fun_induction trailingZeros n with
  | case1 n h ih =>
    have fewer : 0 < n / 10 := by omega
    rw [Nat.pow_succ', ← Nat.div_div_eq_div_mul]
    exact ih fewer
  | case2 n h =>
    rw [Nat.pow_zero, Nat.div_one]
    omega

/-- A normalized amount has no zeros at the end. -/
theorem not_dvd_coeff_normalize (nonzero : d.coeff ≠ 0) : ¬ (10 : Int) ∣ d.normalize.coeff := by
  have digits := not_dvd_div_pow_trailingZeros (Int.natAbs_pos.mpr nonzero)
  unfold normalize
  rw [if_neg nonzero]
  show ¬ ((10 : Nat) : Int) ∣ d.coeff.tdiv (10 ^ trailingZeros d.coeff.natAbs)
  rw [Int.natCast_dvd, Int.natAbs_tdiv, Int.natAbs_pow]
  exact digits

/-- An amount that is no wider than an equal one without zeros at the end is the same pair. -/
theorem eq_of_toRat_eq_of_scale_le (hb : ¬ (10 : Int) ∣ b.coeff) (worth : a.toRat = b.toRat)
    (narrower : a.scale ≤ b.scale) : a = b := by
  have coeffs : a.coeffAt b.scale = b.coeff := by
    have same : (a.coeffAt b.scale : Rat) = b.coeffAt b.scale := by
      rw [coeffAt_cast narrower, coeffAt_cast le_rfl, worth]
    have own : b.coeffAt b.scale = b.coeff := by simp [coeffAt]
    rw [own] at same
    exact_mod_cast same
  -- Any place between the scales would be a zero at the end of the wider amount.
  have places : (b.scale - a.scale).toNat = 0 := by
    by_contra some_place
    refine hb ?_
    rw [← coeffs, coeffAt]
    exact (dvd_pow_self (10 : Int) some_place).mul_left a.coeff
  rw [coeffAt, places, Int.pow_zero, Int.mul_one] at coeffs
  have scales : a.scale = b.scale := by omega
  obtain ⟨coeff, scale⟩ := a
  exact congr (congrArg Decimal.mk coeffs) scales

theorem eq_of_toRat_eq (ha : ¬ (10 : Int) ∣ a.coeff) (hb : ¬ (10 : Int) ∣ b.coeff)
    (worth : a.toRat = b.toRat) : a = b := by
  rcases le_total a.scale b.scale with narrower | wider
  · exact eq_of_toRat_eq_of_scale_le hb worth narrower
  · exact (eq_of_toRat_eq_of_scale_le ha worth.symm wider).symm

/-- **Equal amounts have one normal form**, and no others have it. -/
theorem normalize_eq_iff : a.normalize = b.normalize ↔ a ≈ b := by
  rw [equiv_iff]
  refine ⟨?_, ?_⟩
  · intro same
    rw [← toRat_normalize a, same, toRat_normalize]
  · intro worth
    by_cases zero : a.coeff = 0
    · have zero' : b.coeff = 0 := by
        rwa [← toRat_eq_zero_iff, ← worth, toRat_eq_zero_iff]
      rw [normalize, if_pos zero, normalize, if_pos zero']
    · have nonzero' : b.coeff ≠ 0 := by
        rwa [Ne, ← toRat_eq_zero_iff, ← worth, toRat_eq_zero_iff]
      refine eq_of_toRat_eq (not_dvd_coeff_normalize zero) (not_dvd_coeff_normalize nonzero') ?_
      rw [toRat_normalize, toRat_normalize, worth]

/-! ### Digits -/

/-- Equal amounts have as many digits. -/
theorem significantDigits_congr (h : a ≈ b) : a.significantDigits = b.significantDigits := by
  unfold significantDigits
  rw [normalize_eq_iff.mpr h]

/-- A hundredth of equal amounts is equal, if their digits are kept. -/
theorem div_hundred_congr (h : a ≈ b)
    (few : a.significantDigits ≤ Quotient.significantDigits) : a / 100 ≈ b / 100 := by
  have few' : b.significantDigits ≤ Quotient.significantDigits :=
    (significantDigits_congr h).symm.le.trans few
  rw [equiv_iff, toRat_div_hundred few, toRat_div_hundred few', equiv_iff.mp h]

end Decimal

end SchoolFees

/-
What amounts are worth.

An amount is a pair, and its worth is a rational number (`toRat`).  Sums, differences and
products may leave behind different scales, widen an operand next to a zero or strike
zeros next to a one; none of that shows in the worth, which is the sum, the difference
and the product of what the operands are worth.

The order of amounts is the order of their worth.  It is decided in three stages, by the
sign, by the place of the leading digit and by the digits lined up at a common scale, and
each stage that decides at all decides as the worth does (`Tells`).
-/
import Mathlib.Algebra.Order.Field.Power
import Mathlib.Algebra.Order.Ring.Rat
import Mathlib.Tactic.Linarith
import Mathlib.Tactic.NormNum
import Mathlib.Tactic.Positivity
import Mathlib.Tactic.Ring
import SchoolFees.Decimal.Basic

namespace SchoolFees

namespace Decimal

variable {a b d : Decimal} {scale : Int}

/-! ### Scales -/

theorem toRat_mk (coeff scale : Int) :
    (⟨coeff, scale⟩ : Decimal).toRat = coeff * (10 : Rat) ^ (-scale) := rfl

theorem zpow_ten_pos (n : Int) : (0 : Rat) < 10 ^ n := zpow_pos (by norm_num) n

/-- Lining an amount up at a wider scale multiplies its coefficient out. -/
theorem coeffAt_cast (h : d.scale ≤ scale) : (d.coeffAt scale : Rat) = d.toRat * 10 ^ scale := by
  have places : (10 : Rat) ^ (scale - d.scale).toNat = 10 ^ (scale - d.scale) := by
    rw [← zpow_natCast, Int.toNat_of_nonneg (by omega)]
  unfold coeffAt toRat
  push_cast
  rw [places, mul_assoc, ← zpow_add₀ (by norm_num), neg_add_eq_sub]

/-- An amount is worth its coefficient at any wider scale. -/
theorem toRat_coeffAt (h : d.scale ≤ scale) :
    (⟨d.coeffAt scale, scale⟩ : Decimal).toRat = d.toRat := by
  rw [toRat_mk, coeffAt_cast h, mul_assoc, ← zpow_add₀ (by norm_num), add_neg_cancel, zpow_zero,
    mul_one]

theorem toRat_eq_zero_iff : d.toRat = 0 ↔ d.coeff = 0 := by
  unfold toRat
  rw [mul_eq_zero, or_iff_left (zpow_ten_pos _).ne', Int.cast_eq_zero]

theorem toRat_pos_iff : 0 < d.toRat ↔ 0 < d.coeff := by
  unfold toRat
  rw [mul_pos_iff_of_pos_right (zpow_ten_pos _), Int.cast_pos]

theorem toRat_neg_iff : d.toRat < 0 ↔ d.coeff < 0 := by
  unfold toRat
  rw [mul_neg_iff, Int.cast_lt_zero]
  have pos := zpow_ten_pos (-d.scale)
  refine ⟨?_, fun h => Or.inr ⟨h, pos⟩⟩
  intro h
  rcases h with ⟨-, h⟩ | ⟨h, -⟩
  · exact absurd h pos.not_gt
  · exact h

@[simp] theorem toRat_ofInt (n : Int) : (ofInt n).toRat = n := by
  rw [ofInt, toRat_mk, neg_zero, zpow_zero, mul_one]

@[simp] theorem toRat_ofNat (n : Nat) : (OfNat.ofNat n : Decimal).toRat = n := toRat_ofInt n

theorem toRat_widen (d : Decimal) (places : Nat) : (d.widen places).toRat = d.toRat := by
  unfold widen toRat
  push_cast
  rw [mul_assoc, ← zpow_natCast, ← zpow_add₀ (by norm_num)]
  congr 2
  omega

/-- Zeros that are struck were worth nothing. -/
theorem toRat_normalize (d : Decimal) : d.normalize.toRat = d.toRat := by
  unfold normalize
  split
  · rename_i zero
    rw [toRat_ofNat, toRat_eq_zero_iff.mpr zero, Nat.cast_zero]
  · -- The normalized amount, widened again by the zeros struck, is the amount.
    have divides : (10 : Int) ^ trailingZeros d.coeff.natAbs ∣ d.coeff := by
      have := pow_trailingZeros_dvd d.coeff.natAbs
      exact_mod_cast Int.natCast_dvd.mpr this
    rw [← toRat_widen _ (trailingZeros d.coeff.natAbs)]
    unfold widen
    rw [Int.tdiv_mul_cancel divides, sub_add_cancel]

/-! ### Sums, differences and products -/

theorem toRat_addAligned (a b : Decimal) : (a.addAligned b).toRat = a.toRat + b.toRat := by
  unfold addAligned
  rw [toRat_mk, Int.cast_add, add_mul, ← toRat_mk, ← toRat_mk, toRat_coeffAt (le_max_left _ _),
    toRat_coeffAt (le_max_right _ _)]

theorem toRat_sub (a b : Decimal) : (a - b).toRat = a.toRat - b.toRat := by
  show (Decimal.sub a b).toRat = _
  unfold Decimal.sub
  rw [toRat_mk, Int.cast_sub, sub_mul, ← toRat_mk, ← toRat_mk, toRat_coeffAt (le_max_left _ _),
    toRat_coeffAt (le_max_right _ _)]

theorem toRat_add (a b : Decimal) : (a + b).toRat = a.toRat + b.toRat := by
  show (Decimal.add a b).toRat = _
  unfold Decimal.add
  by_cases zero : b.coeff = 0
  · rw [if_pos zero, widenTowards, toRat_widen, toRat_eq_zero_iff.mpr zero, add_zero]
  · rw [if_neg zero]
    by_cases zero' : a.coeff = 0
    · rw [if_pos zero', widenTowards, toRat_widen, toRat_eq_zero_iff.mpr zero', zero_add]
    · rw [if_neg zero', toRat_addAligned]

/-- What is plainly one is worth one. -/
theorem IsPlainOne.toRat_eq_one (one : d.IsPlainOne) : d.toRat = 1 := by
  obtain ⟨nonneg, -, coeff⟩ := one
  rw [toRat, coeff]
  push_cast
  rw [← zpow_natCast, Int.toNat_of_nonneg nonneg, ← zpow_add₀ (by norm_num), add_neg_cancel,
    zpow_zero]

theorem toRat_mul (a b : Decimal) : (a * b).toRat = a.toRat * b.toRat := by
  show (Decimal.mul a b).toRat = _
  unfold Decimal.mul
  by_cases one : a.IsPlainOne
  · rw [if_pos one, toRat_normalize, one.toRat_eq_one, one_mul]
  · rw [if_neg one]
    by_cases one' : b.IsPlainOne
    · rw [if_pos one', toRat_normalize, one'.toRat_eq_one, mul_one]
    · rw [if_neg one', toRat_mk, toRat, toRat, Int.cast_mul, neg_add,
        zpow_add₀ (by norm_num), mul_mul_mul_comm]

/-- A list is worth the sum of what its amounts are worth. -/
theorem toRat_sum (ds : List Decimal) : (sum ds).toRat = (ds.map toRat).sum := by
  have onto : ∀ start : Decimal,
      (ds.foldl addAligned start).toRat = start.toRat + (ds.map toRat).sum := by
    induction ds with
    | nil => intro start; simp
    | cons d rest ih =>
      intro start
      rw [List.foldl_cons, ih, toRat_addAligned, List.map_cons, List.sum_cons, add_assoc]
  unfold sum
  rw [onto, toRat_ofNat, Nat.cast_zero, zero_add]

/-! ### Size -/

theorem abs_toRat (d : Decimal) : |d.toRat| = d.coeff.natAbs * (10 : Rat) ^ (-d.scale) := by
  unfold toRat
  rw [abs_mul, abs_of_pos (zpow_ten_pos _), ← Int.cast_abs, Int.abs_eq_natAbs, Int.cast_natCast]

theorem toRat_abs (d : Decimal) : d.abs.toRat = |d.toRat| := by
  rw [abs_toRat, Decimal.abs, toRat_mk, Int.cast_natCast]

/-! ### The place of the leading digit -/

theorem lt_zpow_leadingPlace (d : Decimal) : |d.toRat| < 10 ^ d.leadingPlace := by
  have digits : d.coeff.natAbs < 10 ^ (Nat.toDigits 10 d.coeff.natAbs).length :=
    (Nat.length_toDigits_le_iff (by decide) Nat.length_toDigits_pos).mp le_rfl
  have digits' : (d.coeff.natAbs : Rat) < 10 ^ (Nat.toDigits 10 d.coeff.natAbs).length := by
    exact_mod_cast digits
  rw [abs_toRat, leadingPlace, sub_eq_add_neg, zpow_add₀ (by norm_num), zpow_natCast]
  exact mul_lt_mul_of_pos_right digits' (zpow_ten_pos _)

theorem zpow_leadingPlace_le (nonzero : d.coeff ≠ 0) : 10 ^ (d.leadingPlace - 1) ≤ |d.toRat| := by
  have some_digit : 0 < (Nat.toDigits 10 d.coeff.natAbs).length := Nat.length_toDigits_pos
  have digits : 10 ^ ((Nat.toDigits 10 d.coeff.natAbs).length - 1) ≤ d.coeff.natAbs := by
    by_cases single : (Nat.toDigits 10 d.coeff.natAbs).length = 1
    · rw [single]
      exact Int.natAbs_pos.mpr nonzero
    · have fewer := mt (Nat.length_toDigits_le_iff (by decide) (by omega)).mpr
        (show ¬ (Nat.toDigits 10 d.coeff.natAbs).length ≤
          (Nat.toDigits 10 d.coeff.natAbs).length - 1 by omega)
      exact not_lt.mp fewer
  have digits' : (10 : Rat) ^ ((Nat.toDigits 10 d.coeff.natAbs).length - 1) ≤ d.coeff.natAbs := by
    exact_mod_cast digits
  have place : d.leadingPlace - 1 =
      (((Nat.toDigits 10 d.coeff.natAbs).length - 1 : Nat) : Int) + -d.scale := by
    unfold leadingPlace
    omega
  rw [abs_toRat, place, zpow_add₀ (by norm_num), zpow_natCast]
  exact mul_le_mul_of_nonneg_right digits' (zpow_ten_pos _).le

/-- Of two amounts the one whose leading digit stands further left is the larger. -/
theorem abs_lt_abs_of_leadingPlace (nonzero : b.coeff ≠ 0)
    (places : a.leadingPlace < b.leadingPlace) : |a.toRat| < |b.toRat| :=
  calc |a.toRat| < 10 ^ a.leadingPlace := lt_zpow_leadingPlace a
    _ ≤ 10 ^ (b.leadingPlace - 1) := zpow_le_zpow_right₀ (by norm_num) (by omega)
    _ ≤ |b.toRat| := zpow_leadingPlace_le nonzero

/-! ### Order -/

/-- The outcome of a comparison says how two numbers stand to each other. -/
def Tells (x y : Rat) : Ordering → Prop
  | .lt => x < y
  | .eq => x = y
  | .gt => y < x

variable {x y : Rat} {o p : Ordering}

/-- A second comparison need only be right where the first leaves it open. -/
theorem Tells.then (first : o ≠ .eq → Tells x y o) (second : o = .eq → Tells x y p) :
    Tells x y (o.then p) := by
  cases o with
  | lt => exact first (by decide)
  | eq => exact second rfl
  | gt => exact first (by decide)

theorem Tells.eq_lt_iff (h : Tells x y o) : o = .lt ↔ x < y := by
  cases o with
  | lt => exact ⟨fun _ => h, fun _ => rfl⟩
  | eq => exact ⟨nofun, fun less => absurd h less.ne⟩
  | gt => exact ⟨nofun, fun less => absurd h less.asymm⟩

theorem Tells.eq_eq_iff (h : Tells x y o) : o = .eq ↔ x = y := by
  cases o with
  | lt => exact ⟨nofun, fun same => absurd same (ne_of_lt h)⟩
  | eq => exact ⟨fun _ => h, fun _ => rfl⟩
  | gt => exact ⟨nofun, fun same => absurd same (ne_of_gt h)⟩

theorem Tells.isLE_iff (h : Tells x y o) : o.isLE = true ↔ x ≤ y := by
  cases o with
  | lt => exact ⟨fun _ => le_of_lt h, fun _ => rfl⟩
  | eq => exact ⟨fun _ => le_of_eq h, fun _ => rfl⟩
  | gt => exact ⟨nofun, fun le => absurd le (not_le_of_gt h)⟩

/-- Whole numbers that stand to each other as two amounts do tell of the amounts. -/
theorem tells_of_int {m n : Int} (lt : m < n → x < y) (eq : m = n → x = y) (gt : n < m → y < x) :
    Tells x y (Ord.compare m n) := by
  cases h : Ord.compare m n with
  | lt => exact lt (Int.compare_eq_lt.mp h)
  | eq => exact eq (Int.compare_eq_eq.mp h)
  | gt => exact gt (Int.compare_eq_gt.mp h)

theorem toRat_lt_of_sign_lt (h : a.coeff.sign < b.coeff.sign) : a.toRat < b.toRat := by
  by_cases pos : 0 < b.coeff
  · have not_pos : ¬ 0 < a.coeff := by
      intro pos'
      rw [Int.sign_eq_one_of_pos pos, Int.sign_eq_one_of_pos pos'] at h
      exact absurd h (lt_irrefl 1)
    exact (not_lt.mp (mt toRat_pos_iff.mp not_pos)).trans_lt (toRat_pos_iff.mpr pos)
  · have neg : a.coeff < 0 := by
      by_contra not_neg
      have nonneg := Int.sign_nonneg_iff.mpr (not_lt.mp not_neg)
      have nonpos := Int.sign_nonpos_iff.mpr (not_lt.mp pos)
      omega
    have not_neg : ¬ b.coeff < 0 := by
      intro neg'
      rw [Int.sign_eq_neg_one_of_neg neg, Int.sign_eq_neg_one_of_neg neg'] at h
      exact absurd h (lt_irrefl (-1))
    exact (toRat_neg_iff.mpr neg).trans_le (not_lt.mp (mt toRat_neg_iff.mp not_neg))

theorem toRat_lt_of_coeffAt_lt (ha : a.scale ≤ scale) (hb : b.scale ≤ scale)
    (h : a.coeffAt scale < b.coeffAt scale) : a.toRat < b.toRat := by
  have h' : (a.coeffAt scale : Rat) < b.coeffAt scale := by exact_mod_cast h
  rw [coeffAt_cast ha, coeffAt_cast hb] at h'
  exact lt_of_mul_lt_mul_right h' (zpow_ten_pos _).le

theorem toRat_eq_of_coeffAt_eq (ha : a.scale ≤ scale) (hb : b.scale ≤ scale)
    (h : a.coeffAt scale = b.coeffAt scale) : a.toRat = b.toRat := by
  rw [← toRat_coeffAt ha, ← toRat_coeffAt hb, h]

/-- Among amounts below zero, the one whose leading digit stands further left is the smaller. -/
theorem toRat_lt_of_leadingPlace_of_neg (ha : a.coeff < 0) (hb : b.coeff < 0)
    (places : b.leadingPlace < a.leadingPlace) : a.toRat < b.toRat := by
  have larger := abs_lt_abs_of_leadingPlace ha.ne places
  rw [abs_of_neg (toRat_neg_iff.mpr ha), abs_of_neg (toRat_neg_iff.mpr hb)] at larger
  exact neg_lt_neg_iff.mp larger

theorem toRat_lt_of_leadingPlace_of_pos (ha : 0 < a.coeff) (hb : 0 < b.coeff)
    (places : a.leadingPlace < b.leadingPlace) : a.toRat < b.toRat := by
  have larger := abs_lt_abs_of_leadingPlace hb.ne' places
  rwa [abs_of_pos (toRat_pos_iff.mpr ha), abs_of_pos (toRat_pos_iff.mpr hb)] at larger

/-- **Amounts are compared by what they are worth.** -/
theorem tells_compare (a b : Decimal) : Tells a.toRat b.toRat (a.compare b) := by
  unfold Decimal.compare
  refine Tells.then ?_ ?_
  · intro decided
    exact tells_of_int toRat_lt_of_sign_lt (fun same => absurd (Int.compare_eq_eq.mpr same) decided)
      toRat_lt_of_sign_lt
  · intro signs
    have signs : a.coeff.sign = b.coeff.sign := Int.compare_eq_eq.mp signs
    by_cases zero : a.coeff = 0
    · have zero' : b.coeff = 0 := by
        rwa [zero, Int.sign_zero, eq_comm, Int.sign_eq_zero_iff_zero] at signs
      rw [if_pos zero]
      exact (toRat_eq_zero_iff.mpr zero).trans (toRat_eq_zero_iff.mpr zero').symm
    · rw [if_neg zero]
      refine Tells.then ?_ ?_
      · intro decided
        by_cases neg : a.coeff < 0
        · have neg' : b.coeff < 0 := by
            rwa [Int.sign_eq_neg_one_of_neg neg, eq_comm, Int.sign_eq_neg_one_iff_neg] at signs
          rw [if_pos neg, Int.compare_swap] at decided ⊢
          exact tells_of_int (toRat_lt_of_leadingPlace_of_neg neg neg')
            (fun same => absurd (Int.compare_eq_eq.mpr same) decided)
            (toRat_lt_of_leadingPlace_of_neg neg' neg)
        · have pos : 0 < a.coeff := by omega
          have pos' : 0 < b.coeff := by
            rwa [Int.sign_eq_one_of_pos pos, eq_comm, Int.sign_eq_one_iff_pos] at signs
          rw [if_neg neg] at decided ⊢
          exact tells_of_int (toRat_lt_of_leadingPlace_of_pos pos pos')
            (fun same => absurd (Int.compare_eq_eq.mpr same) decided)
            (toRat_lt_of_leadingPlace_of_pos pos' pos)
      · intro _
        have le : a.scale ≤ max a.scale b.scale := le_max_left _ _
        have le' : b.scale ≤ max a.scale b.scale := le_max_right _ _
        exact tells_of_int (toRat_lt_of_coeffAt_lt le le') (toRat_eq_of_coeffAt_eq le le')
          (toRat_lt_of_coeffAt_lt le' le)

theorem lt_iff : a < b ↔ a.toRat < b.toRat := (tells_compare a b).eq_lt_iff

theorem le_iff : a ≤ b ↔ a.toRat ≤ b.toRat := (tells_compare a b).isLE_iff

theorem not_lt_iff : ¬ a < b ↔ b ≤ a := by rw [lt_iff, le_iff, not_lt]

theorem not_le_iff : ¬ a ≤ b ↔ b < a := by rw [lt_iff, le_iff, not_le]

theorem toRat_nonneg_iff : 0 ≤ d.toRat ↔ 0 ≤ d := by
  rw [le_iff, toRat_ofNat, Nat.cast_zero]

/-- Amounts are equal when they are worth the same. -/
theorem equiv_iff : a ≈ b ↔ a.toRat = b.toRat := (tells_compare a b).eq_eq_iff

end Decimal

end SchoolFees

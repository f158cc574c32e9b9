/-
Fees by percent.

A fee by percent is a quotient by a hundred, and such a quotient ends where its dividend does.
So the fee is exact as long as the product of charge and amount has no more digits than are
kept, zeros at either end apart, and has the laws of that product: it is additive in the
amount, and rises with it unless the charge is below zero.

Where digits are cut off the fee is near the hundredth all the same, and it never has another
sign: what is charged for is never free, and a refund is never a charge.
-/
import SchoolFees.Pricing.Tier
import SchoolFees.Proofs.Decimal.Rounding

namespace SchoolFees

namespace Tier

variable {t : Tier} {amount a b : Decimal}

theorem fee_of_percent (percent : t.kind = .percent) (amount : Decimal) :
    t.fee amount = t.charge * amount / 100 := by
  unfold fee
  rw [percent]

theorem near_fee (percent : t.kind = .percent) (amount : Decimal) :
    Decimal.Near (100 * (t.fee amount).toRat) (t.charge.toRat * amount.toRat) := by
  rw [fee_of_percent percent, ← Decimal.toRat_mul, ← Decimal.toRat_hundred, mul_comm]
  exact Decimal.near_div (by decide)

theorem hundred_mul_fee (percent : t.kind = .percent)
    (few : (t.charge * amount).significantDigits ≤ Quotient.significantDigits) :
    100 * (t.fee amount).toRat = t.charge.toRat * amount.toRat := by
  rw [fee_of_percent percent, Decimal.toRat_div_hundred few, Decimal.toRat_mul,
    mul_div_cancel₀ _ (by norm_num)]

/-- **Exact fees add up.** -/
theorem fee_add_equiv (percent : t.kind = .percent)
    (few : ∀ amount ∈ [a, b, a + b],
      (t.charge * amount).significantDigits ≤ Quotient.significantDigits) :
    t.fee (a + b) ≈ t.fee a + t.fee b := by
  have first := hundred_mul_fee percent (few a (by simp))
  have second := hundred_mul_fee percent (few b (by simp))
  have both := hundred_mul_fee percent (few (a + b) (by simp))
  rw [Decimal.toRat_add, mul_add] at both
  rw [Decimal.equiv_iff, Decimal.toRat_add]
  linarith

/-- **Exact fees rise with the amount**, if the charge is not below zero. -/
theorem fee_le_fee (percent : t.kind = .percent)
    (few : ∀ amount ∈ [a, b],
      (t.charge * amount).significantDigits ≤ Quotient.significantDigits)
    (nonneg : 0 ≤ t.charge) (le : a ≤ b) : t.fee a ≤ t.fee b := by
  have first := hundred_mul_fee percent (few a (by simp))
  have second := hundred_mul_fee percent (few b (by simp))
  have rise := mul_le_mul_of_nonneg_left (Decimal.le_iff.mp le)
    (Decimal.toRat_nonneg_iff.mpr nonneg)
  rw [Decimal.le_iff]
  linarith

/--
**Fees by percent are exact up to a hundred digits.**  The fee of any amount has the sign of charge
times amount, and a hundred fees are that product, rounded behind a hundred digits where the
product has more.  As far as it has not, the fees of two amounts together are the fee of their sum,
and a larger amount has no smaller fee unless the charge is below zero.
-/
theorem percent_fees_exact (t : Tier) (percent : t.kind = .percent) :
    (∀ amount, (t.charge * amount).significantDigits ≤ 100 →
      100 * (t.fee amount).toRat = t.charge.toRat * amount.toRat) ∧
    (∀ amount,
      SignType.sign (t.fee amount).toRat = SignType.sign (t.charge.toRat * amount.toRat) ∧
        |100 * (t.fee amount).toRat - t.charge.toRat * amount.toRat| ≤
          5 / 10 ^ 100 * |100 * (t.fee amount).toRat|) ∧
    (∀ a b, (∀ amount ∈ [a, b, a + b], (t.charge * amount).significantDigits ≤ 100) →
      t.fee (a + b) ≈ t.fee a + t.fee b) ∧
    ∀ a b, (∀ amount ∈ [a, b], (t.charge * amount).significantDigits ≤ 100) →
      0 ≤ t.charge → a ≤ b → t.fee a ≤ t.fee b := by
  refine ⟨fun amount few => hundred_mul_fee percent few, ?_,
    fun a b few => fee_add_equiv percent few, fun a b few => fee_le_fee percent few⟩
  intro amount
  have near := near_fee percent amount
  have sign := near.sign_eq
  rw [sign_mul, sign_pos (by norm_num), one_mul] at sign
  exact ⟨sign, near⟩

/-- A payment of ninety-nine digits and a refund of its last one, at a charge of 1.7 percent: the
fee of the payment has a hundred digits and is exact. -/
theorem percent_fees_exact_longPayment :
    (Tier.mk none .percent ⟨17, 1⟩).kind = .percent ∧
      (∀ amount ∈ [⟨10 ^ 98 + 1, 2⟩, ⟨-1, 2⟩, (⟨10 ^ 98 + 1, 2⟩ + ⟨-1, 2⟩ : Decimal)],
        (⟨17, 1⟩ * amount).significantDigits ≤ 100) ∧
      (Tier.mk none .percent ⟨17, 1⟩).fee (⟨10 ^ 98 + 1, 2⟩ + ⟨-1, 2⟩) ≈
        (Tier.mk none .percent ⟨17, 1⟩).fee ⟨10 ^ 98 + 1, 2⟩ +
          (Tier.mk none .percent ⟨17, 1⟩).fee ⟨-1, 2⟩ := by
  have few : ∀ amount ∈ [⟨10 ^ 98 + 1, 2⟩, ⟨-1, 2⟩, (⟨10 ^ 98 + 1, 2⟩ + ⟨-1, 2⟩ : Decimal)],
      (⟨17, 1⟩ * amount).significantDigits ≤ 100 := by decide +kernel
  exact ⟨rfl, few, (percent_fees_exact ⟨none, .percent, ⟨17, 1⟩⟩ rfl).2.2.1 _ _ few⟩

end Tier

end SchoolFees

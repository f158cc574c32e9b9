/-
Commissions balance.

Everything that is earned on a payment is a difference of two fees, so the figures of a
commission add up to what the customer pays above the gateway's charge and above the
applied rate.  The base fee is what trustee and platform part at: one earns what the other
does not, and the total knows nothing of it.

The sums are of amounts as they are worth.  Taxing multiplies the worth of every figure by
one and the same factor, and what is consistent stays so under a common factor
(`IsConsistent.scaled`); that is why the tax on a total is the total of the taxes.
-/
import SchoolFees.Proofs.Commission.Quotes
import SchoolFees.Proofs.Decimal.Worth

namespace SchoolFees

/-- The values of all layers. -/
def Layers.toList {α : Type} (l : Layers α) : List α :=
  [l.gatewayBuying, l.schoolBase, l.schoolFinal, l.applied]

theorem Layers.forall_mem_toList {α : Type} {p : α → Prop} {l : Layers α} :
    (∀ a ∈ l.toList, p a) ↔
      p l.gatewayBuying ∧ p l.schoolBase ∧ p l.schoolFinal ∧ p l.applied := by
  simp [toList]

namespace Figures

/-- The five figures of a set. -/
def parts : List (Figures → Decimal) := [trustee, platformBase, platformFinal, platform, total]

theorem forall_mem_parts {p : (Figures → Decimal) → Prop} :
    (∀ part ∈ parts, p part) ↔
      p trustee ∧ p platformBase ∧ p platformFinal ∧ p platform ∧ p total := by
  simp [parts]

variable {figures figures' : Figures}

theorem isConsistent_iff :
    figures.IsConsistent ↔
      figures.platform.toRat = figures.platformBase.toRat + figures.platformFinal.toRat ∧
        figures.total.toRat = figures.trustee.toRat + figures.platform.toRat := by
  unfold IsConsistent
  rw [Decimal.equiv_iff, Decimal.equiv_iff, Decimal.toRat_add, Decimal.toRat_add]

theorem isConsistent_ofFees (fees : Layers Decimal) : (ofFees fees).IsConsistent := by
  rw [isConsistent_iff]
  exact ⟨Decimal.toRat_add _ _, Decimal.toRat_add _ _⟩

theorem part_map {part : Figures → Decimal} (h : part ∈ parts) (f : Decimal → Decimal) :
    part (figures.map f) = f (part figures) := by
  simp only [parts, List.mem_cons, List.not_mem_nil, or_false] at h
  rcases h with rfl | rfl | rfl | rfl | rfl
  · rfl
  · rfl
  · rfl
  · rfl
  · rfl

/-- Figures that are consistent stay so when all are multiplied by the same. -/
theorem IsConsistent.scaled {factor : Rat} (h : figures.IsConsistent)
    (scaled : ∀ part ∈ parts, (part figures').toRat = factor * (part figures).toRat) :
    figures'.IsConsistent := by
  obtain ⟨platform, total⟩ := isConsistent_iff.mp h
  refine isConsistent_iff.mpr ⟨?_, ?_⟩
  · rw [scaled Figures.platform (by simp [parts]), scaled platformBase (by simp [parts]),
      scaled platformFinal (by simp [parts]), platform, mul_add]
  · rw [scaled Figures.total (by simp [parts]), scaled trustee (by simp [parts]),
      scaled Figures.platform (by simp [parts]), total, mul_add]

/-! ### Figures and fees -/

section

variable (fees : Layers Decimal)

theorem toRat_trustee :
    (ofFees fees).trustee.toRat = fees.schoolFinal.toRat - fees.schoolBase.toRat :=
  Decimal.toRat_sub _ _

theorem toRat_platformBase :
    (ofFees fees).platformBase.toRat = fees.schoolBase.toRat - fees.gatewayBuying.toRat :=
  Decimal.toRat_sub _ _

theorem toRat_platformFinal :
    (ofFees fees).platformFinal.toRat = fees.schoolFinal.toRat - fees.applied.toRat :=
  Decimal.toRat_sub _ _

theorem toRat_platform :
    (ofFees fees).platform.toRat = fees.schoolBase.toRat - fees.gatewayBuying.toRat +
      fees.schoolFinal.toRat - fees.applied.toRat := by
  have sum := (isConsistent_iff.mp (isConsistent_ofFees fees)).1
  rw [sum, toRat_platformBase, toRat_platformFinal, add_sub_assoc]

theorem toRat_total :
    (ofFees fees).total.toRat =
      2 * fees.schoolFinal.toRat - fees.gatewayBuying.toRat - fees.applied.toRat := by
  have sum := (isConsistent_iff.mp (isConsistent_ofFees fees)).2
  rw [sum, toRat_trustee, toRat_platform]
  ring

end

/-! ### Taxes -/

variable (rate : Decimal)

theorem toRat_tax {part : Figures → Decimal} (h : part ∈ parts) :
    (part (figures.taxed rate).tax).toRat = rate.toRat * (part figures).toRat := by
  show (part (figures.map (· * rate))).toRat = _
  rw [part_map h, Decimal.toRat_mul, mul_comm]

theorem toRat_withTax {part : Figures → Decimal} (h : part ∈ parts) :
    (part (figures.taxed rate).withTax).toRat = (1 + rate.toRat) * (part figures).toRat := by
  show (part (figures.map fun figure => figure + figure * rate)).toRat = _
  rw [part_map h, Decimal.toRat_add, Decimal.toRat_mul]
  ring

end Figures

/-! ### Balance -/

/-- The parts of a commission fit together, each for what it is worth. -/
structure Commission.Balances (c : Commission) (rate : Decimal) : Prop where
  /-- Each layer charges what its tier charges on the order amount. -/
  fees : ∀ quote ∈ c.quotes.toList, quote.fee = quote.tier.fee c.orderAmount
  trustee : c.figures.trustee.toRat = c.fees.schoolFinal.toRat - c.fees.schoolBase.toRat
  platformBase :
    c.figures.platformBase.toRat = c.fees.schoolBase.toRat - c.fees.gatewayBuying.toRat
  platformFinal : c.figures.platformFinal.toRat = c.fees.schoolFinal.toRat - c.fees.applied.toRat
  platform : c.figures.platform.toRat = c.fees.schoolBase.toRat - c.fees.gatewayBuying.toRat +
    c.fees.schoolFinal.toRat - c.fees.applied.toRat
  total : c.figures.total.toRat =
    2 * c.fees.schoolFinal.toRat - c.fees.gatewayBuying.toRat - c.fees.applied.toRat
  /-- Any other base fee would have brought the same total. -/
  baseless : ∀ base, (Figures.ofFees { c.fees with schoolBase := base }).total ≈ c.figures.total
  tax : ∀ part ∈ Figures.parts, (part c.taxed.tax).toRat = rate.toRat * (part c.figures).toRat
  withTax : ∀ part ∈ Figures.parts,
    (part c.taxed.withTax).toRat = (1 + rate.toRat) * (part c.figures).toRat
  consistent : ∀ figures ∈ [c.figures, c.taxed.tax, c.taxed.withTax], figures.IsConsistent

/--
**Every commission balances.**  Whatever the sheets, the backend and the tax rate are, the
figures of a commission that was computed follow from the fees of its layers, its taxes
from its figures, and all three sets of figures are consistent.
-/
theorem Cascade.compute_balances (c : Cascade) (request : CommissionRequest)
    (commission : Commission) (h : c.compute request = .ok commission) :
    commission.Balances c.config.gstRate := by
  obtain ⟨-, hquotes, -, hfigures, htaxed⟩ := compute_eq_ok_iff.mp h
  obtain ⟨hgateway, hbase, hfinal, happlied⟩ := quotes_eq_ok_iff.mp hquotes
  have tax : ∀ part ∈ Figures.parts,
      (part commission.taxed.tax).toRat =
        c.config.gstRate.toRat * (part commission.figures).toRat := by
    intro part hpart
    rw [htaxed, Figures.toRat_tax _ hpart]
  have withTax : ∀ part ∈ Figures.parts,
      (part commission.taxed.withTax).toRat =
        (1 + c.config.gstRate.toRat) * (part commission.figures).toRat := by
    intro part hpart
    rw [htaxed, Figures.toRat_withTax _ hpart]
  have consistent : commission.figures.IsConsistent := by
    rw [hfigures]
    exact Figures.isConsistent_ofFees _
  refine ⟨?_, ?_, ?_, ?_, ?_, ?_, ?_, tax, withTax, ?_⟩
  · simp only [Layers.toList, List.forall_mem_cons, List.not_mem_nil, false_implies, implies_true,
      and_true]
    exact ⟨Quote.pricedOn_of_quote hgateway, Quote.pricedOn_of_quote hbase,
      Quote.pricedOn_of_quote hfinal, pricedOn_of_appliedQuote happlied⟩
  · rw [hfigures, Figures.toRat_trustee]
  · rw [hfigures, Figures.toRat_platformBase]
  · rw [hfigures, Figures.toRat_platformFinal]
  · rw [hfigures, Figures.toRat_platform]
  · rw [hfigures, Figures.toRat_total]
  · intro base
    rw [Decimal.equiv_iff, hfigures, Figures.toRat_total, Figures.toRat_total]
  · simp only [List.forall_mem_cons, List.not_mem_nil, false_implies, implies_true, and_true]
    exact ⟨consistent, consistent.scaled tax, consistent.scaled withTax⟩

/-- Percentages at the gateway and at the school, a flat base rate, and a rate that was applied in
place of the school's own. -/
def Cascade.mixedRates : Cascade where
  config := ⟨"pg", ⟨18, 2⟩, 1, ⟨1⟩, 0⟩
  sheets := ⟨((((∅ : Registry Owner Catalog).set (.gateway "pg")
      ⟨[⟨⟨"UPI", "Others"⟩, [⟨some 1000, .flat, 5⟩, ⟨none, .percent, ⟨12, 1⟩⟩]⟩]⟩).set
    (.trusteeBase "t1") ⟨[⟨⟨"upi", "others"⟩, [⟨none, .flat, ⟨2050, 2⟩⟩]⟩]⟩).set
    (.schoolFinal "s1") ⟨[⟨⟨"UPI", "Corporate"⟩, [⟨none, .percent, ⟨175, 2⟩⟩]⟩]⟩), [], []⟩
  payments := (Payments.empty.setAmount "x1" ⟨199999, 2⟩).setApplied "s1" ⟨"UPI", "CORPORATE"⟩
    ⟨some 1, .percent, ⟨15, 1⟩⟩

theorem Cascade.compute_balances_mixedRates :
    ∃ commission, mixedRates.compute ⟨⟨"s1", "t1"⟩, "x1", ⟨"UPI", "Corporate"⟩⟩ = .ok commission ∧
      commission.Balances mixedRates.config.gstRate := by
  have computed : (mixedRates.compute
      ⟨⟨"s1", "t1"⟩, "x1", ⟨"UPI", "Corporate"⟩⟩).toOption.isSome = true := by decide +kernel
  obtain ⟨commission, computed⟩ := Option.isSome_iff_exists.mp computed
  have computed := Outcome.toOption_eq_some_iff.mp computed
  exact ⟨commission, computed, compute_balances mixedRates _ commission computed⟩

end SchoolFees

/-
The tax on commissions, and amounts that contain it.

Taxing multiplies the worth of every figure by one factor, the rate for the tax alone and one
more than the rate for the figure with the tax.  A factor other than zero keeps what is
consistent and hides nothing that is not, and one more than a rate is never zero.  So figures
with the tax are consistent when those without it are, and so are the taxes alone, unless
nothing is taxed at all.

An amount that contains the tax is divided by one more than the rate, which is above zero.
The amount before tax is that quotient, exact where it ends and near it elsewhere, and since
the total is worked out from it once more, what the total is off by is what the quotient
multiplied by its divisor is off by (`Decimal.near_div`).
-/
import SchoolFees.Proofs.Commission.Balance
import SchoolFees.Proofs.Decimal.Rounding

namespace SchoolFees

/-! ### Rates -/

namespace Gst

variable {α : Type} {rate : Decimal} {e : NegativeRate}

theorem checked_of_nonneg (nonneg : 0 ≤ rate) (work : Unit → Except NegativeRate α) :
    (checkRate rate >>= work) = work () := by
  rw [checkRate, if_neg (Decimal.not_lt_iff.mpr nonneg)]
  rfl

/-- Work that does not fail at other rates fails at a rate below zero alone, and names it. -/
theorem checked_eq_error_iff {work : Unit → Except NegativeRate α}
    (succeeds : 0 ≤ rate → ∃ a, work () = .ok a) :
    (checkRate rate >>= work) = .error e ↔ rate < 0 ∧ e = ⟨rate⟩ := by
  by_cases neg : rate < 0
  · rw [checkRate, if_pos neg]
    show Except.error ⟨rate⟩ = .error e ↔ _
    rw [Except.error.injEq, and_iff_right neg, eq_comm]
  · have nonneg := Decimal.not_lt_iff.mp neg
    obtain ⟨a, worked⟩ := succeeds nonneg
    rw [checked_of_nonneg nonneg, worked]
    refine ⟨?_, fun h => absurd h.1 neg⟩
    intro refused
    cases refused

end Gst

/-! ### Figures -/

namespace Figures

variable {figures figures' : Figures} {factor : Rat}

/-- A common factor other than zero neither makes figures consistent nor inconsistent. -/
theorem isConsistent_scaled_iff (nonzero : factor ≠ 0)
    (scaled : ∀ part ∈ parts, (part figures').toRat = factor * (part figures).toRat) :
    figures'.IsConsistent ↔ figures.IsConsistent := by
  have back : ∀ part ∈ parts, (part figures).toRat = factor⁻¹ * (part figures').toRat := by
    intro part hpart
    rw [scaled part hpart, inv_mul_cancel_left₀ nonzero]
  exact ⟨fun h => h.scaled back, fun h => h.scaled scaled⟩

/-- Figures that are worth nothing are consistent. -/
theorem isConsistent_of_zero (zero : ∀ part ∈ parts, (part figures).toRat = 0) :
    figures.IsConsistent := by
  obtain ⟨trustee, base, final, platform, total⟩ := forall_mem_parts.mp zero
  rw [isConsistent_iff, trustee, base, final, platform, total, add_zero]
  exact ⟨rfl, rfl⟩

end Figures

/-- The figures with tax and the taxes are those of `figures` at a rate, and show whether they are
consistent. -/
structure TaxedFigures.Mirrors (taxed : TaxedFigures) (figures : Figures) (rate : Decimal) :
    Prop where
  tax : ∀ part ∈ Figures.parts, (part taxed.tax).toRat = rate.toRat * (part figures).toRat
  withTax : ∀ part ∈ Figures.parts,
    (part taxed.withTax).toRat = (1 + rate.toRat) * (part figures).toRat
  withTax_consistent : taxed.withTax.IsConsistent ↔ figures.IsConsistent
  /-- Only taxes of nothing hide that the figures are not consistent. -/
  tax_consistent : taxed.tax.IsConsistent ↔ figures.IsConsistent ∨ rate.toRat = 0

theorem Figures.mirrors_taxed (figures : Figures) {rate : Decimal} (nonneg : 0 ≤ rate.toRat) :
    (figures.taxed rate).Mirrors figures rate := by
  have tax : ∀ part ∈ parts,
      (part (figures.taxed rate).tax).toRat = rate.toRat * (part figures).toRat :=
    fun part hpart => toRat_tax rate hpart
  have withTax : ∀ part ∈ parts,
      (part (figures.taxed rate).withTax).toRat = (1 + rate.toRat) * (part figures).toRat :=
    fun part hpart => toRat_withTax rate hpart
  refine ⟨tax, withTax, isConsistent_scaled_iff (by linarith) withTax, ?_⟩
  by_cases zero : rate.toRat = 0
  · refine iff_of_true (isConsistent_of_zero ?_) (.inr zero)
    intro part hpart
    rw [tax part hpart, zero, zero_mul]
  · rw [or_iff_left zero]
    exact isConsistent_scaled_iff zero tax

/--
**The tax keeps and reveals consistency.**  A rate is refused when it is below zero, and only then.
At any other rate, whatever the signs and scales of the figures are, every tax is worth the rate
times its figure and every figure with its tax one more than that, and both sets of figures tell
whether the untaxed figures are consistent, the taxes at a rate of zero apart.
-/
theorem Gst.apply_mirrors_figures (rate : Decimal) (figures : Figures) :
    (∀ e, apply rate figures = .error e ↔ rate < 0 ∧ e = ⟨rate⟩) ∧
      (0 ≤ rate → ∃ taxed, apply rate figures = .ok taxed ∧ taxed.Mirrors figures rate) := by
  refine ⟨fun e => checked_eq_error_iff fun _ => ⟨_, rfl⟩, ?_⟩
  intro nonneg
  exact ⟨_, checked_of_nonneg nonneg _,
    figures.mirrors_taxed (Decimal.toRat_nonneg_iff.mpr nonneg)⟩

/-- A total that is one too much shows in the taxes at eighteen percent, and does not at zero. -/
theorem Gst.apply_mirrors_figures_wrongTotal :
    (0 : Decimal) ≤ ⟨18, 2⟩ ∧ (0 : Decimal) ≤ 0 ∧
      (∃ taxed, apply ⟨18, 2⟩ ⟨10, 4, ⟨600, 2⟩, 10, 21⟩ = .ok taxed ∧
        ¬ taxed.tax.IsConsistent ∧ ¬ taxed.withTax.IsConsistent) ∧
      ∃ taxed, apply 0 ⟨10, 4, ⟨600, 2⟩, 10, 21⟩ = .ok taxed ∧
        taxed.tax.IsConsistent ∧ ¬ taxed.withTax.IsConsistent := by
  have wrong : ¬ (Figures.mk 10 4 ⟨600, 2⟩ 10 21).IsConsistent := by decide
  have nonneg : (0 : Decimal) ≤ ⟨18, 2⟩ := by decide
  have nonneg' : (0 : Decimal) ≤ 0 := by decide
  obtain ⟨taxed, applied, mirrors⟩ :=
    (apply_mirrors_figures ⟨18, 2⟩ ⟨10, 4, ⟨600, 2⟩, 10, 21⟩).2 nonneg
  obtain ⟨taxed', applied', mirrors'⟩ :=
    (apply_mirrors_figures 0 ⟨10, 4, ⟨600, 2⟩, 10, 21⟩).2 nonneg'
  have rate : (⟨18, 2⟩ : Decimal).toRat ≠ 0 := mt Decimal.toRat_eq_zero_iff.mp (by decide)
  refine ⟨nonneg, nonneg', ⟨taxed, applied, ?_, ?_⟩, taxed', applied', ?_, ?_⟩
  · rw [mirrors.tax_consistent]
    exact not_or.mpr ⟨wrong, rate⟩
  · rwa [mirrors.withTax_consistent]
  · exact mirrors'.tax_consistent.mpr (.inr (Decimal.toRat_eq_zero_iff.mpr rfl))
  · rwa [mirrors'.withTax_consistent]

/-! ### Amounts -/

namespace TaxedAmount

variable {base total rate : Decimal}

theorem ofBase_of_nonneg (nonneg : 0 ≤ rate) (base : Decimal) :
    ofBase base rate = .ok ⟨base, rate, base * rate, base + base * rate⟩ :=
  Gst.checked_of_nonneg nonneg _

theorem ofTotal_of_nonneg (nonneg : 0 ≤ rate) (total : Decimal) :
    ofTotal total rate = ofBase (total / Decimal.addAligned 1 rate) rate :=
  Gst.checked_of_nonneg nonneg _

theorem ofTotal_eq_error_iff {e : NegativeRate} :
    ofTotal total rate = .error e ↔ rate < 0 ∧ e = ⟨rate⟩ :=
  Gst.checked_eq_error_iff fun nonneg => ⟨_, ofBase_of_nonneg nonneg _⟩

theorem toRat_divisor (rate : Decimal) : (Decimal.addAligned 1 rate).toRat = 1 + rate.toRat := by
  rw [Decimal.toRat_addAligned, Decimal.toRat_ofNat, Nat.cast_one]

theorem toRat_divisor_pos (nonneg : 0 ≤ rate) : 0 < (Decimal.addAligned 1 rate).toRat := by
  have charge := Decimal.toRat_nonneg_iff.mpr nonneg
  rw [toRat_divisor]
  linarith

/-- With the tax on it, an amount is one more than the rate times as much. -/
theorem toRat_add_tax (base rate : Decimal) :
    (base + base * rate).toRat = base.toRat * (1 + rate.toRat) := by
  rw [Decimal.toRat_add, Decimal.toRat_mul, mul_one_add]

/-- A total is taken apart as far as the digits of a quotient go. -/
structure TakenFrom (apart : TaxedAmount) (total rate : Decimal) : Prop where
  quotient : apart.base = total / Decimal.addAligned 1 rate
  charged : apart.rate = rate
  tax : apart.tax.toRat = apart.base.toRat * rate.toRat
  sum : apart.total.toRat = apart.base.toRat + apart.tax.toRat
  sign : SignType.sign apart.base.toRat = SignType.sign total.toRat
  /-- An amount before tax that ends within a hundred digits is found, and nothing is lost. -/
  ends : ∀ base : Decimal, base.toRat = total.toRat / (1 + rate.toRat) →
    base.significantDigits ≤ 100 → apart.base ≈ base ∧ apart.total ≈ total
  near : |apart.total.toRat - total.toRat| ≤ 5 / 10 ^ 100 * |apart.total.toRat|

theorem exists_takenFrom (nonneg : 0 ≤ rate) (total : Decimal) :
    ∃ apart, ofTotal total rate = .ok apart ∧ apart.TakenFrom total rate := by
  have pos := toRat_divisor_pos nonneg
  have near := Decimal.near_div (a := total) (Decimal.toRat_pos_iff.mp pos).ne'
  refine ⟨_, (ofTotal_of_nonneg nonneg total).trans (ofBase_of_nonneg nonneg _),
    rfl, rfl, Decimal.toRat_mul _ _, Decimal.toRat_add _ _, ?_, ?_, ?_⟩
  · have sign := near.sign_eq
    rwa [sign_mul, sign_pos pos, mul_one] at sign
  · intro base worth few
    have found : (total / Decimal.addAligned 1 rate).toRat = base.toRat :=
      Decimal.toRat_div_of_ends few (by rw [worth, toRat_divisor])
    rw [toRat_divisor] at pos
    refine ⟨Decimal.equiv_iff.mpr found, Decimal.equiv_iff.mpr ?_⟩
    rw [toRat_add_tax, found, worth, div_mul_cancel₀ _ pos.ne']
  · rw [toRat_divisor] at near
    rwa [toRat_add_tax]

/-- **Taxing an amount and taking it apart again gives the same amounts.** -/
theorem exists_apart_ofBase (nonneg : 0 ≤ rate) (few : base.significantDigits ≤ 100) :
    ∃ taxed apart, ofBase base rate = .ok taxed ∧ ofTotal taxed.total rate = .ok apart ∧
      apart.base ≈ taxed.base ∧ apart.tax ≈ taxed.tax ∧ apart.total ≈ taxed.total := by
  have pos := toRat_divisor_pos nonneg
  rw [toRat_divisor] at pos
  obtain ⟨apart, taken, known⟩ := exists_takenFrom nonneg (base + base * rate)
  have worth : base.toRat = (base + base * rate).toRat / (1 + rate.toRat) := by
    rw [toRat_add_tax, mul_div_cancel_right₀ _ pos.ne']
  obtain ⟨sameBase, sameTotal⟩ := known.ends base worth few
  refine ⟨_, apart, ofBase_of_nonneg nonneg base, taken, sameBase, ?_, sameTotal⟩
  rw [Decimal.equiv_iff, known.tax, Decimal.equiv_iff.mp sameBase, Decimal.toRat_mul]

/--
**Taking the tax out of a total undoes putting it on.**  A rate is refused when it is below zero,
and only then.  At any other rate nothing is divided by zero, and every total is taken apart into
an amount of its sign and the tax on that, which together are the total as far as a hundred digits
tell.  No digits are lost where the amount before tax has no more than that, so an amount that was
taxed comes back as it was.
-/
theorem ofTotal_undoes_ofBase (total rate : Decimal) :
    (∀ e, ofTotal total rate = .error e ↔ rate < 0 ∧ e = ⟨rate⟩) ∧
      (0 ≤ rate → 0 < Decimal.addAligned 1 rate ∧
        (∃ apart, ofTotal total rate = .ok apart ∧ apart.TakenFrom total rate) ∧
        ∀ base : Decimal, base.significantDigits ≤ 100 →
          ∃ taxed apart, ofBase base rate = .ok taxed ∧ ofTotal taxed.total rate = .ok apart ∧
            apart.base ≈ taxed.base ∧ apart.tax ≈ taxed.tax ∧ apart.total ≈ taxed.total) := by
  refine ⟨fun e => ofTotal_eq_error_iff, ?_⟩
  intro nonneg
  refine ⟨?_, exists_takenFrom nonneg total, fun base few => exists_apart_ofBase nonneg few⟩
  rw [Decimal.lt_iff, Decimal.toRat_ofNat, Nat.cast_zero]
  exact toRat_divisor_pos nonneg

/-- At eighteen percent, a thousand that was taxed comes back; taking the tax out of a hundred goes
on behind the digits that are kept. -/
theorem ofTotal_undoes_ofBase_eighteenPercent :
    (0 : Decimal) ≤ ⟨18, 2⟩ ∧ (1000 : Decimal).significantDigits ≤ 100 ∧
      (∃ taxed apart, ofBase 1000 ⟨18, 2⟩ = .ok taxed ∧
        ofTotal taxed.total ⟨18, 2⟩ = .ok apart ∧
        apart.base ≈ taxed.base ∧ apart.tax ≈ taxed.tax ∧ apart.total ≈ taxed.total) ∧
      ∃ apart, ofTotal 100 ⟨18, 2⟩ = .ok apart ∧ apart.TakenFrom 100 ⟨18, 2⟩ ∧
        ¬ apart.total ≈ 100 := by
  have nonneg : (0 : Decimal) ≤ ⟨18, 2⟩ := by decide
  have few : (1000 : Decimal).significantDigits ≤ 100 := by decide +kernel
  obtain ⟨-, -, back⟩ := (ofTotal_undoes_ofBase 0 ⟨18, 2⟩).2 nonneg
  obtain ⟨-, ⟨apart, taken, known⟩, -⟩ := (ofTotal_undoes_ofBase 100 ⟨18, 2⟩).2 nonneg
  refine ⟨nonneg, few, back 1000 few, apart, taken, known, ?_⟩
  have cut : ¬ (100 / Decimal.addAligned 1 ⟨18, 2⟩ +
      100 / Decimal.addAligned 1 ⟨18, 2⟩ * ⟨18, 2⟩ : Decimal) ≈ 100 := by decide +kernel
  rw [ofTotal_of_nonneg nonneg, ofBase_of_nonneg nonneg, Except.ok.injEq] at taken
  rwa [← taken]

end TaxedAmount

end SchoolFees

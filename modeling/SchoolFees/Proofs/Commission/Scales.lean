/-
Commissions from amounts that are written at other scales.

The two cascades compared here have equal sheets and equal backends, and configurations
with equal rates.  They are followed side by side through every question that a computation
asks: a sheet is read, a chain of owners is tried, the backend answers, each of them with
what is equal on both sides or with the same error.  So both compute a commission or
neither does, and from the same sources, whatever the amounts are.

The fees of equal quotes are equal as far as no digit of them is cut off (`Tier.ExactOn`).
That is asked of each quote apart; once all four fees are equal, so are all figures, as
they are made of sums, differences and products.
-/
import SchoolFees.Proofs.Commission.Balance
import SchoolFees.Proofs.Commission.Isolation
import SchoolFees.Proofs.Pricing.Scales

namespace SchoolFees

/-! ### Configurations -/

/-- The same configuration, with rates that are worth the same. -/
structure Config.Equal (c c' : Config) : Prop where
  gatewayId : c.gatewayId = c'.gatewayId
  gstRate : c.gstRate ≈ c'.gstRate
  maxConcurrency : c.maxConcurrency = c'.maxConcurrency
  callTimeout : c.callTimeout = c'.callTimeout
  mismatchTolerance : c.mismatchTolerance ≈ c'.mismatchTolerance

theorem Config.check_of_equal {c c' : Config} (h : c.Equal c') : c.check = c'.check := by
  have zero := Decimal.equiv_refl 0
  unfold check
  simp only [h.gatewayId, h.maxConcurrency, h.callTimeout, Decimal.lt_congr h.gstRate zero,
    Decimal.lt_congr h.mismatchTolerance zero]

/-! ### Registries -/

section

variable {κ α β : Type} {agree : α → β → Prop} {r : Registry κ α} {r' : Registry κ β}

theorem Registry.empty_rel (k : κ) :
    Option.Rel agree ((∅ : Registry κ α).get? k) ((∅ : Registry κ β).get? k) := .none

/-- Registering values that agree keeps two registries in agreement. -/
theorem Registry.set_rel [DecidableEq κ] (h : ∀ k, Option.Rel agree (r.get? k) (r'.get? k))
    (key : κ) {a : α} {b : β} (values : agree a b) (k : κ) :
    Option.Rel agree ((r.set key a).get? k) ((r'.set key b).get? k) := by
  rw [get?_set, get?_set]
  split
  · exact .some values
  · exact h k

end

/-! ### Sheets -/

/-- A tier from the same source, and the same fee for it unless digits are cut off. -/
structure Quote.Equal (amount : Decimal) (q q' : Quote) : Prop where
  source : q.source = q'.source
  tier : q.tier.Equal q'.tier
  fee : q.tier.ExactOn amount → q.fee ≈ q'.fee

theorem Quote.ofTier_equal (source : RateSource) {t t' : Tier} {amount amount' : Decimal}
    (h : t.Equal t') (amounts : amount ≈ amount') :
    (ofTier source t amount).Equal amount (ofTier source t' amount') :=
  ⟨rfl, h, h.fee_equiv amounts⟩

namespace SheetStore

/-- The same owners have sheets, which are equal. -/
structure Equal (s s' : SheetStore) : Prop where
  sheets : ∀ owner, Option.Rel Catalog.Equal (s.sheets.get? owner) (s'.sheets.get? owner)
  unreadable : s.unreadable = s'.unreadable
  unwritable : s.unwritable = s'.unwritable

variable {s s' : SheetStore} {amount amount' : Decimal}

theorem Equal.read_rel (h : s.Equal s') (owner : Owner) :
    Outcome.Rel FeeError.Equal (Option.Rel Catalog.Equal) (s.read owner) (s'.read owner) := by
  unfold read
  rw [h.unreadable]
  split
  · exact .error rfl
  · exact .ok (h.sheets owner)

theorem Equal.entryOf_rel (h : s.Equal s') (owner : Owner) (key : ChargeKey) :
    Outcome.Rel FeeError.Equal (Option.Rel Entry.Equal) (s.entryOf owner key)
      (s'.entryOf owner key) := by
  refine (h.read_rel owner).bind fun _ _ sheets => ?_
  cases sheets with
  | none => exact .ok .none
  | some sheets => exact .ok (sheets.lookup_rel key).toOption

/-- A chain of owners comes to the same owner, or to the same failure. -/
theorem Equal.quote_rel (h : s.Equal s') (key : ChargeKey) (amounts : amount ≈ amount')
    (chain : List Owner) :
    Outcome.Rel FeeError.Equal (Quote.Equal amount) (s.quote key amount chain)
      (s'.quote key amount' chain) := by
  induction chain with
  | nil => exact .error rfl
  | cons owner rest ih =>
    refine (h.entryOf_rel owner key).bind fun _ _ entries => ?_
    cases entries with
    | none => exact ih
    | some entries =>
      refine (TierTable.select_rel entries.tiers amounts).bind fun _ _ tiers => ?_
      exact .ok (Quote.ofTier_equal _ tiers amounts)

end SheetStore

/-! ### The backend -/

namespace Payments

/-- The same backend, with amounts and applied rates that are worth the same. -/
structure Equal (p p' : Payments) : Prop where
  amounts : ∀ transaction,
    Option.Rel (· ≈ ·) (p.amounts.get? transaction) (p'.amounts.get? transaction)
  applied : ∀ key, Option.Rel Tier.Equal (p.applied.get? key) (p'.applied.get? key)
  settled : p.settled = p'.settled
  failing : p.failing = p'.failing
  delays : p.delays = p'.delays

variable {p p' : Payments}

theorem Equal.answer_rel {α β : Type} {agree : α → β → Prop} (h : p.Equal p') (name : String)
    {a : α} {b : β} (values : agree a b) : Call.Rel agree (p.answer name a) (p'.answer name b) := by
  unfold answer
  rw [h.failing, h.delays]
  split
  · exact ⟨.error rfl, rfl⟩
  · exact ⟨.ok values, rfl⟩

theorem Equal.orderAmount_rel (h : p.Equal p') (transaction : String) :
    Call.Rel (Option.Rel (· ≈ ·)) (p.orderAmount transaction) (p'.orderAmount transaction) :=
  h.answer_rel transaction (h.amounts transaction)

theorem Equal.appliedTier_rel (h : p.Equal p') (schoolId : String) (key : ChargeKey) :
    Call.Rel (Option.Rel Tier.Equal) (p.appliedTier schoolId key) (p'.appliedTier schoolId key) :=
  h.answer_rel schoolId (h.applied _)

end Payments

/-! ### Commissions -/

/-- The values of each layer agree. -/
structure Layers.Rel {α β : Type} (agree : α → β → Prop) (l : Layers α) (l' : Layers β) : Prop where
  gatewayBuying : agree l.gatewayBuying l'.gatewayBuying
  schoolBase : agree l.schoolBase l'.schoolBase
  schoolFinal : agree l.schoolFinal l'.schoolFinal
  applied : agree l.applied l'.applied

/-- Figures that are worth the same, one by one. -/
def Figures.Equal (f f' : Figures) : Prop := ∀ part ∈ parts, part f ≈ part f'

theorem Figures.ofFees_equal {fees fees' : Layers Decimal} (h : fees.Rel (· ≈ ·) fees') :
    (ofFees fees).Equal (ofFees fees') := by
  have trustee := Decimal.sub_congr h.schoolFinal h.schoolBase
  have platformBase := Decimal.sub_congr h.schoolBase h.gatewayBuying
  have platformFinal := Decimal.sub_congr h.schoolFinal h.applied
  have platform := Decimal.add_congr platformBase platformFinal
  have total := Decimal.add_congr trustee platform
  exact forall_mem_parts.mpr ⟨trustee, platformBase, platformFinal, platform, total⟩

/-- Equal figures are taxed equally at equal rates. -/
theorem Figures.taxed_equal {f f' : Figures} (h : f.Equal f') {rate rate' : Decimal}
    (rates : rate ≈ rate') :
    (f.taxed rate).tax.Equal (f'.taxed rate').tax ∧
      (f.taxed rate).withTax.Equal (f'.taxed rate').withTax := by
  refine ⟨?_, ?_⟩
  · intro part hpart
    rw [Decimal.equiv_iff, toRat_tax _ hpart, toRat_tax _ hpart, Decimal.equiv_iff.mp rates,
      Decimal.equiv_iff.mp (h part hpart)]
  · intro part hpart
    rw [Decimal.equiv_iff, toRat_withTax _ hpart, toRat_withTax _ hpart,
      Decimal.equiv_iff.mp rates, Decimal.equiv_iff.mp (h part hpart)]

/-- The same commission, with amounts that are worth the same. -/
structure Commission.Equal (c c' : Commission) : Prop where
  transaction : c.transaction = c'.transaction
  orderAmount : c.orderAmount ≈ c'.orderAmount
  /-- Each layer has its price from the same source, at an equal tier and for an equal fee. -/
  quotes : c.quotes.Rel (Quote.Equal c.orderAmount) c'.quotes
  /-- All figures are equal, without the tax and with it, if no fee has digits cut off. -/
  figures : (∀ quote ∈ c.quotes.toList, quote.tier.ExactOn c.orderAmount) →
    c.figures.Equal c'.figures ∧ c.taxed.tax.Equal c'.taxed.tax ∧
      c.taxed.withTax.Equal c'.taxed.withTax

namespace Cascade

/-- Cascades that compute from what is equal. -/
structure Equal (c c' : Cascade) : Prop where
  config : c.config.Equal c'.config
  sheets : c.sheets.Equal c'.sheets
  payments : c.payments.Equal c'.payments

variable {c c' : Cascade} {amount amount' : Decimal}

theorem create_rel {config config' : Config} {s s' : SheetStore} {p p' : Payments}
    (configs : config.Equal config') (sheets : s.Equal s') (payments : p.Equal p') :
    Outcome.Rel FeeError.Equal Equal (create config s p) (create config' s' p') := by
  have checks := Config.check_of_equal configs
  cases valid : config.check with
  | ok _ =>
    rw [create_of_check valid, create_of_check (checks.symm.trans valid)]
    exact .ok ⟨configs, sheets, payments⟩
  | error e =>
    unfold create
    rw [← checks, valid]
    exact .error rfl

theorem Equal.orderAmount_rel (h : c.Equal c') (transaction : String) :
    Outcome.Rel FeeError.Equal (· ≈ ·) (c.orderAmount transaction)
      (c'.orderAmount transaction) := by
  have answers := ((h.payments.orderAmount_rel transaction).within c.config.callTimeout).answer
  have told := answers.mono_error fun _ _ same => congrArg FeeError.normalized same
  unfold orderAmount
  rw [← h.config.callTimeout]
  refine told.bind fun _ _ found => ?_
  cases found with
  | none => exact .error rfl
  | some amounts => exact .ok amounts

/-- Both sides are told an applied rate, or both fall back to the school's own. -/
theorem Equal.appliedQuote_rel (h : c.Equal c') (school : School) (key : ChargeKey)
    (amounts : amount ≈ amount') :
    Outcome.Rel FeeError.Equal (Quote.Equal amount) (c.appliedQuote school key amount)
      (c'.appliedQuote school key amount') := by
  have answers :=
    ((h.payments.appliedTier_rel school.id key).within c.config.callTimeout).answer
  have final := h.sheets.quote_rel key amounts (finalChain school)
  unfold appliedQuote
  rw [← h.config.callTimeout]
  generalize ((c.payments.appliedTier school.id key).within c.config.callTimeout).answer = x,
    ((c'.payments.appliedTier school.id key).within c.config.callTimeout).answer = y at answers ⊢
  cases answers with
  | error _ => exact final
  | ok found =>
    cases found with
    | none => exact final
    | some tiers => exact .ok (Quote.ofTier_equal _ tiers amounts)

theorem Equal.quotes_rel (h : c.Equal c') (school : School) (key : ChargeKey)
    (amounts : amount ≈ amount') :
    Outcome.Rel FeeError.Equal (Layers.Rel (Quote.Equal amount)) (c.quotes school key amount)
      (c'.quotes school key amount') := by
  have chain := h.sheets.quote_rel key amounts
  have applied := h.appliedQuote_rel school key amounts
  unfold quotes
  rw [gatewayChain, gatewayChain, ← h.config.gatewayId]
  refine ((chain _).inLayer .gatewayBuying).bind fun _ _ gatewayBuying => ?_
  refine ((chain _).inLayer .schoolBase).bind fun _ _ schoolBase => ?_
  refine ((chain _).inLayer .schoolFinal).bind fun _ _ schoolFinal => ?_
  refine (applied.inLayer .applied).bind fun _ _ applied => ?_
  exact .ok ⟨gatewayBuying, schoolBase, schoolFinal, applied⟩

/-- **Equal cascades compute equal commissions**, or fail for equal reasons. -/
theorem Equal.compute_rel (h : c.Equal c') (request : CommissionRequest) :
    Outcome.Rel FeeError.Equal Commission.Equal (c.compute request) (c'.compute request) := by
  refine (h.orderAmount_rel request.transaction).bind fun amount amount' amounts => ?_
  refine (h.quotes_rel request.school request.key amounts).bind fun quotes quotes' layers => ?_
  refine .ok ⟨rfl, amounts, layers, ?_⟩
  intro exactOn
  obtain ⟨gatewayBuying, schoolBase, schoolFinal, applied⟩ := Layers.forall_mem_toList.mp exactOn
  have fees : (quotes.map (·.fee)).Rel (· ≈ ·) (quotes'.map (·.fee)) :=
    ⟨layers.gatewayBuying.fee gatewayBuying, layers.schoolBase.fee schoolBase,
      layers.schoolFinal.fee schoolFinal, layers.applied.fee applied⟩
  have figures := Figures.ofFees_equal fees
  exact ⟨figures, Figures.taxed_equal figures h.config.gstRate⟩

end Cascade

namespace PricingState

/-- Equal sheets beside equal backends. -/
structure Equal (s s' : PricingState) : Prop where
  sheets : s.sheets.Equal s'.sheets
  payments : s.payments.Equal s'.payments

theorem Equal.answer_rel {s s' : PricingState} (h : s.Equal s') {config config' : Config}
    (configs : config.Equal config') (request : CommissionRequest) :
    Outcome.Rel FeeError.Equal Commission.Equal (s.answer config request)
      (s'.answer config' request) :=
  (Cascade.create_rel configs h.sheets h.payments).bind fun _ _ cascades =>
    cascades.compute_rel request

end PricingState

end SchoolFees

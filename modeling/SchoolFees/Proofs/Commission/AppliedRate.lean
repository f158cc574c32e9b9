/-
What the rate that was applied reaches.

The backend says which rate it applied, or says nothing, or cannot be asked.  Only the
fourth quote of a commission hears of it: the order amount and the three layers that need a
sheet are worked out without it (`AgreesBesidesApplied`), and of the figures only those in
which the applied fee is a term.  Where the backend has nothing to say, the fourth quote is
the third one again, so its figure is zero and drops out of the total.

The proofs run the two computations side by side: they ask the same questions about the
transaction and of the sheets, and so get the same answers.
-/
import SchoolFees.Proofs.Commission.Balance

namespace SchoolFees

/-- Two states that say the same of everything but the rates that the backend applied and whether
it answers about this school. -/
structure PricingState.AgreesBesidesApplied (s s' : PricingState) (schoolId : String) : Prop where
  sheets : s'.sheets = s.sheets
  amounts : s'.payments.amounts = s.payments.amounts
  failing : ∀ name, name ≠ schoolId →
    (name ∈ s'.payments.failing ↔ name ∈ s.payments.failing)

/-- Two commissions that are alike in everything that the applied rate does not reach. -/
structure Commission.AgreesBesidesApplied (c c' : Commission) : Prop where
  transaction : c'.transaction = c.transaction
  orderAmount : c'.orderAmount = c.orderAmount
  gatewayBuying : c'.quotes.gatewayBuying = c.quotes.gatewayBuying
  schoolBase : c'.quotes.schoolBase = c.quotes.schoolBase
  schoolFinal : c'.quotes.schoolFinal = c.quotes.schoolFinal
  /-- Of the figures, those in which the applied fee has no part, without the tax and with it. -/
  figures : ∀ part ∈ [Figures.trustee, Figures.platformBase],
    part c'.figures = part c.figures ∧ part c'.taxed.tax = part c.taxed.tax ∧
      part c'.taxed.withTax = part c.taxed.withTax

/-- The applied quote of a commission is the backend's, or else the final one. -/
structure Commission.AppliedFrom (c : Commission) (p : Payments) (request : CommissionRequest) :
    Prop where
  /-- A rate that the backend has and tells is taken as it stands, whatever its bound. -/
  live : ∀ tier, request.school.id ∉ p.failing →
    p.applied.get? (request.school.id, request.key.folded) = some tier →
    c.quotes.applied = ⟨.paymentsBackend, tier, tier.fee c.orderAmount⟩
  /-- Where there is none, or none is told, nothing is earned on the applied rate. -/
  fallback : request.school.id ∈ p.failing ∨
      p.applied.get? (request.school.id, request.key.folded) = none →
    c.quotes.applied = c.quotes.schoolFinal ∧ c.figures.platformFinal.toRat = 0 ∧
      c.figures.total.toRat = c.fees.schoolFinal.toRat - c.fees.gatewayBuying.toRat

namespace Cascade

variable {c c' : Cascade} {request : CommissionRequest} {commission commission' : Commission}

/-! ### One run -/

/-- The rate that a prompt backend tells. -/
theorem appliedTier_within (undelayed : c.payments.delays = ∅) (schoolId : String)
    (key : ChargeKey) :
    ((c.payments.appliedTier schoolId key).within c.config.callTimeout).answer =
      if schoolId ∈ c.payments.failing then .error (.unavailable (.backend schoolId))
      else .ok (c.payments.applied.get? (schoolId, key.folded)) :=
  Payments.answer_within undelayed _ _ _

theorem appliedQuote_of_live (undelayed : c.payments.delays = ∅) {school : School} {key : ChargeKey}
    {tier : Tier} (answers : school.id ∉ c.payments.failing)
    (known : c.payments.applied.get? (school.id, key.folded) = some tier) (amount : Decimal) :
    c.appliedQuote school key amount = .ok (Quote.ofTier .paymentsBackend tier amount) := by
  unfold appliedQuote
  rw [appliedTier_within undelayed, if_neg answers, known]

theorem appliedQuote_of_silent (undelayed : c.payments.delays = ∅) {school : School}
    {key : ChargeKey} (silent : school.id ∈ c.payments.failing ∨
      c.payments.applied.get? (school.id, key.folded) = none) (amount : Decimal) :
    c.appliedQuote school key amount = c.sheets.quote key amount (finalChain school) := by
  unfold appliedQuote
  rw [appliedTier_within undelayed]
  by_cases refuses : school.id ∈ c.payments.failing
  · rw [if_pos refuses]
  · rw [if_neg refuses, silent.resolve_left refuses]

theorem appliedFrom_of_compute (undelayed : c.payments.delays = ∅)
    (h : c.compute request = .ok commission) : commission.AppliedFrom c.payments request := by
  obtain ⟨-, hquotes, -, hfigures, -⟩ := compute_eq_ok_iff.mp h
  obtain ⟨-, -, hfinal, happlied⟩ := quotes_eq_ok_iff.mp hquotes
  refine ⟨?_, ?_⟩
  · intro tier answers known
    rw [appliedQuote_of_live undelayed answers known] at happlied
    exact (Except.ok.inj happlied).symm
  · intro silent
    rw [appliedQuote_of_silent undelayed silent, hfinal] at happlied
    have same : commission.quotes.applied = commission.quotes.schoolFinal :=
      (Except.ok.inj happlied).symm
    have fees : commission.fees.applied = commission.fees.schoolFinal :=
      congrArg (·.fee) same
    refine ⟨same, ?_, ?_⟩
    · rw [hfigures, Figures.toRat_platformFinal, fees, sub_self]
    · rw [hfigures, Figures.toRat_total, fees]
      ring

/-! ### Two runs -/

/-- The order amount is asked for under the name of the transaction. -/
theorem orderAmount_congr {s s' : PricingState} (prompt : s.Prompt) (prompt' : s'.Prompt)
    {config : Config} {schoolId : String} (agree : s.AgreesBesidesApplied s' schoolId)
    {transaction : String} (distinct : transaction ≠ schoolId) :
    (Cascade.mk config s'.sheets s'.payments).orderAmount transaction =
      (Cascade.mk config s.sheets s.payments).orderAmount transaction := by
  rw [orderAmount_of_undelayed prompt'.undelayed, orderAmount_of_undelayed prompt.undelayed]
  simp only [agree.amounts, agree.failing transaction distinct]

theorem agrees_of_compute (config : c'.config = c.config) (sheets : c'.sheets = c.sheets)
    (amount : c'.orderAmount request.transaction = c.orderAmount request.transaction)
    (h : c.compute request = .ok commission) (h' : c'.compute request = .ok commission') :
    commission.AgreesBesidesApplied commission' := by
  obtain ⟨hamount, hquotes, htransaction, hfigures, htaxed⟩ := compute_eq_ok_iff.mp h
  obtain ⟨hamount', hquotes', htransaction', hfigures', htaxed'⟩ := compute_eq_ok_iff.mp h'
  rw [amount] at hamount'
  have amounts := Outcome.ok_unique hamount hamount'
  obtain ⟨hgateway, hbase, hfinal, -⟩ := quotes_eq_ok_iff.mp hquotes
  obtain ⟨hgateway', hbase', hfinal', -⟩ := quotes_eq_ok_iff.mp hquotes'
  -- The sheets are asked for the same prices.
  rw [sheets, amounts] at hgateway' hbase' hfinal'
  rw [gatewayChain, config, ← gatewayChain] at hgateway'
  have gateway := Outcome.ok_unique hgateway hgateway'
  have base := Outcome.ok_unique hbase hbase'
  have final := Outcome.ok_unique hfinal hfinal'
  refine ⟨htransaction'.trans htransaction.symm, amounts, gateway, base, final, ?_⟩
  have trustee : commission'.figures.trustee = commission.figures.trustee := by
    rw [hfigures, hfigures']
    simp only [Figures.ofFees, Commission.fees, Layers.map, final, base]
  have platformBase : commission'.figures.platformBase = commission.figures.platformBase := by
    rw [hfigures, hfigures']
    simp only [Figures.ofFees, Commission.fees, Layers.map, base, gateway]
  rw [htaxed, htaxed', config]
  simp only [List.forall_mem_cons, List.not_mem_nil, false_implies, implies_true, and_true,
    Figures.taxed, Figures.map, trustee, platformBase]

/--
**The applied rate is confined to its layer.**  Of two states that differ only in what the
backend applied and in whether it can be asked about the school, both bring a commission or
neither does, and the two commissions differ at most in the applied quote and the figures
made of its fee.  That quote is the backend's tier just as it was applied, and the quote of
the final layer where the backend does not tell one.
-/
theorem applied_rate_confined (s s' : PricingState) (reached : s.Reached) (reached' : s'.Reached)
    (config : Config) (valid : config.check = .ok ()) (request : CommissionRequest)
    (distinct : request.school.id ≠ request.transaction)
    (agree : s.AgreesBesidesApplied s' request.school.id) :
    ∃ c c', create config s.sheets s.payments = .ok c ∧
      create config s'.sheets s'.payments = .ok c' ∧
      ((∃ commission, c.compute request = .ok commission) ↔
        ∃ commission', c'.compute request = .ok commission') ∧
      (∀ commission commission', c.compute request = .ok commission →
        c'.compute request = .ok commission' → commission.AgreesBesidesApplied commission') ∧
      (∀ commission, c.compute request = .ok commission →
        commission.AppliedFrom s.payments request) ∧
      ∀ commission', c'.compute request = .ok commission' →
        commission'.AppliedFrom s'.payments request := by
  refine ⟨_, _, create_of_check valid _ _, create_of_check valid _ _, ?_, ?_,
    fun _ h => appliedFrom_of_compute reached.prompt.undelayed h,
    fun _ h => appliedFrom_of_compute reached'.prompt.undelayed h⟩
  · rw [exists_compute_iff_priced reached.prompt, exists_compute_iff_priced reached'.prompt,
      agree.sheets, agree.amounts, agree.failing request.transaction distinct.symm]
  · intro commission commission' h h'
    have sheets : (Cascade.mk config s'.sheets s'.payments).sheets =
        (Cascade.mk config s.sheets s.payments).sheets := agree.sheets
    have amount : (Cascade.mk config s'.sheets s'.payments).orderAmount request.transaction =
        (Cascade.mk config s.sheets s.payments).orderAmount request.transaction :=
      orderAmount_congr reached.prompt reached'.prompt agree distinct.symm
    exact agrees_of_compute (by rfl) sheets amount h h'

/-- Standard sheets for three layers, and a backend that knows one amount. -/
def standardSheets : PricingState :=
  ⟨⟨(((∅ : Registry Owner Catalog).set (.gateway "pg") .standard).set (.trusteeBase "t1")
      .standard).set (.schoolFinal "s1") .standard, [], []⟩,
    Payments.empty.setAmount "x1" ⟨199999, 2⟩⟩

/-- The backend tells that it applied a tier whose bound the amount has passed. -/
def toldRate : PricingState :=
  { standardSheets with
    payments := standardSheets.payments.setApplied "s1" ⟨"upi", "CORPORATE"⟩
      ⟨some 1, .percent, ⟨15, 1⟩⟩ }

/-- The backend refuses to answer about the school. -/
def refusedRate : PricingState :=
  { standardSheets with payments := standardSheets.payments.failFor "s1" }

theorem reached_standardSheets : standardSheets.Reached := by
  have gateway := PricingState.Reached.empty.after (.putSheet (.gateway "pg") .standard) rfl
  have base := gateway.after (.putSheet (.trusteeBase "t1") .standard) rfl
  have final := base.after (.putSheet (.schoolFinal "s1") .standard) rfl
  exact final.after (.setAmount "x1" ⟨199999, 2⟩) rfl

/-- The rate is applied in the one state, and the school's own stands in for it in the other. -/
theorem applied_rate_confined_toldRate :
    ∃ c c' commission commission', create ⟨"pg", 0, 1, ⟨1⟩, 0⟩ toldRate.sheets toldRate.payments =
        .ok c ∧
      create ⟨"pg", 0, 1, ⟨1⟩, 0⟩ refusedRate.sheets refusedRate.payments = .ok c' ∧
      c.compute ⟨⟨"s1", "t1"⟩, "x1", ⟨"UPI", "Corporate"⟩⟩ = .ok commission ∧
      c'.compute ⟨⟨"s1", "t1"⟩, "x1", ⟨"UPI", "Corporate"⟩⟩ = .ok commission' ∧
      commission.AgreesBesidesApplied commission' ∧
      commission.quotes.applied.source = .paymentsBackend ∧
      commission'.quotes.applied = commission'.quotes.schoolFinal := by
  have told : toldRate.Reached :=
    reached_standardSheets.after
      (.setApplied "s1" ⟨"upi", "CORPORATE"⟩ ⟨some 1, .percent, ⟨15, 1⟩⟩) rfl
  have refused : refusedRate.Reached := reached_standardSheets.after (.failFor "s1") rfl
  have valid : (Config.mk "pg" 0 1 ⟨1⟩ 0).check = .ok () := Config.check_eq_ok.mpr (by decide)
  have agree : toldRate.AgreesBesidesApplied refusedRate "s1" := by
    refine ⟨rfl, rfl, fun name other => ?_⟩
    show name ∈ ["s1"] ↔ name ∈ []
    simp [other]
  obtain ⟨c, c', created, created', together, agrees, applied, applied'⟩ :=
    applied_rate_confined toldRate refusedRate told refused ⟨"pg", 0, 1, ⟨1⟩, 0⟩ valid
      ⟨⟨"s1", "t1"⟩, "x1", ⟨"UPI", "Corporate"⟩⟩ (by decide) agree
  have computes : ((create ⟨"pg", 0, 1, ⟨1⟩, 0⟩ toldRate.sheets toldRate.payments) >>= fun c =>
      c.compute ⟨⟨"s1", "t1"⟩, "x1", ⟨"UPI", "Corporate"⟩⟩).toOption.isSome = true := by
    decide +kernel
  obtain ⟨commission, computed⟩ := Option.isSome_iff_exists.mp computes
  rw [created] at computed
  have computed := Outcome.toOption_eq_some_iff.mp computed
  obtain ⟨commission', computed'⟩ := together.mp ⟨commission, computed⟩
  refine ⟨c, c', commission, commission', created, created', computed, computed',
    agrees _ _ computed computed', ?_, ?_⟩
  · rw [(applied _ computed).live ⟨some 1, .percent, ⟨15, 1⟩⟩ (by decide) rfl]
  · exact ((applied' _ computed').fallback (.inl (by decide))).1

end Cascade

end SchoolFees

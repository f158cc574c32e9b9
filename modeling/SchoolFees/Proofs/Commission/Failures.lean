/-
When a commission can be computed, and which failure is told when it cannot.

A commission needs an order amount and a price at four layers, but only three of the
layers can be what it fails for.  The rate that was in fact applied falls back to the
school's final sheet whenever the backend does not have it, and the final sheet is
asked one layer earlier: if it had no price the computation has stopped there, and if
it has one the fallback has one too (`appliedQuote_of_final`).  So the fourth layer
never fails on its own, whatever the backend knows or refuses to say.

`Fails` lists the reasons in their order of priority, and `compute_outcome` says that
these are the errors of `compute`, that their absence is its success, and that nothing
the backend says about the school has a part in either.
-/
import SchoolFees.Proofs.Commission.History

namespace SchoolFees

/-- The layers that need a sheet, each with the owners that can price it, in the order in which
their failures are told. -/
def sheetLayers (gatewayId : String) (school : School) : List (Layer × List Owner) :=
  [(.gatewayBuying, [.gateway gatewayId]),
    (.schoolBase, [.schoolBase school.id, .trusteeBase school.trusteeId]),
    (.schoolFinal, [.schoolFinal school.id])]

namespace SheetStore

/-- The chain has a price for the amount. -/
def Prices (s : SheetStore) (key : ChargeKey) (amount : Decimal) (chain : List Owner) : Prop :=
  ∃ quote, s.quote key amount chain = .ok quote

/-- The first layer without a price, and the error of its chain. -/
inductive FirstUnpriced (s : SheetStore) (key : ChargeKey) (amount : Decimal) :
    List (Layer × List Owner) → Layer → FeeError → Prop
  | here {layer : Layer} {chain : List Owner} {rest : List (Layer × List Owner)} {cause : FeeError}
      (unpriced : s.quote key amount chain = .error cause) :
      FirstUnpriced s key amount ((layer, chain) :: rest) layer cause
  | later {first layer : Layer} {chain : List Owner} {rest : List (Layer × List Owner)}
      {cause : FeeError} (priced : s.Prices key amount chain)
      (h : FirstUnpriced s key amount rest layer cause) :
      FirstUnpriced s key amount ((first, chain) :: rest) layer cause

theorem FirstUnpriced.mem {s : SheetStore} {key : ChargeKey} {amount : Decimal}
    {layers : List (Layer × List Owner)} {layer : Layer} {cause : FeeError}
    (h : s.FirstUnpriced key amount layers layer cause) : layer ∈ layers.map (·.1) := by
  induction h with
  | here unpriced => simp
  | later priced h ih => exact List.mem_cons_of_mem _ ih

end SheetStore

namespace PricingState

/-- A commission cannot be computed, for this reason. -/
inductive Fails (s : PricingState) (gatewayId : String) (request : CommissionRequest) :
    FeeError → Prop
  /-- The backend refuses to answer about the transaction. -/
  | refused (failing : request.transaction ∈ s.payments.failing) :
      Fails s gatewayId request (.unavailable (.backend request.transaction))
  /-- It answers, and knows of no amount. -/
  | noAmount (answers : request.transaction ∉ s.payments.failing)
      (unknown : s.payments.amounts.get? request.transaction = none) :
      Fails s gatewayId request (.amountUnavailable request.transaction)
  /-- It knows the amount, and a layer has no price for it. -/
  | noPrice {amount : Decimal} {layer : Layer} {cause : FeeError}
      (answers : request.transaction ∉ s.payments.failing)
      (ordered : s.payments.amounts.get? request.transaction = some amount)
      (unpriced : s.sheets.FirstUnpriced request.key amount (sheetLayers gatewayId request.school)
        layer cause) :
      Fails s gatewayId request (.layerFailed layer cause)

/-- The reasons look at the sheets and at what the backend says about the transaction. -/
theorem fails_congr {s s' : PricingState} {gatewayId : String} {request : CommissionRequest}
    (sheets : s'.sheets = s.sheets)
    (amount : s'.payments.amounts.get? request.transaction =
      s.payments.amounts.get? request.transaction)
    (refusal : request.transaction ∈ s'.payments.failing ↔
      request.transaction ∈ s.payments.failing) {e : FeeError}
    (h : s.Fails gatewayId request e) : s'.Fails gatewayId request e := by
  cases h with
  | refused failing => exact .refused (refusal.mpr failing)
  | noAmount answers unknown =>
    exact .noAmount (fun h => answers (refusal.mp h)) (amount.trans unknown)
  | noPrice answers ordered unpriced =>
    refine .noPrice (fun h => answers (refusal.mp h)) (amount.trans ordered) ?_
    rw [sheets]
    exact unpriced

end PricingState

namespace Cascade

variable {c : Cascade} {school : School} {key : ChargeKey} {amount : Decimal}

theorem create_of_check {config : Config} (valid : config.check = .ok ()) (sheets : SheetStore)
    (payments : Payments) : create config sheets payments = .ok ⟨config, sheets, payments⟩ := by
  unfold create
  rw [valid, Config.checkRate_of_check valid]
  rfl

/-! ### The amount -/

/-- The amount of a transaction, as a prompt backend tells it. -/
theorem orderAmount_of_undelayed (undelayed : c.payments.delays = ∅) (transaction : String) :
    c.orderAmount transaction =
      if transaction ∈ c.payments.failing then .error (.unavailable (.backend transaction))
      else match c.payments.amounts.get? transaction with
        | some amount => .ok amount
        | none => .error (.amountUnavailable transaction) := by
  unfold orderAmount Payments.orderAmount
  rw [Payments.answer_within undelayed]
  by_cases failing : transaction ∈ c.payments.failing
  · rw [if_pos failing, if_pos failing]
    rfl
  · rw [if_neg failing, if_neg failing]
    cases c.payments.amounts.get? transaction with
    | none => rfl
    | some amount => rfl

/-! ### The layers -/

/-- Where the school's final sheet has a price, the applied layer has one. -/
theorem appliedQuote_of_final (h : c.sheets.Prices key amount (finalChain school)) :
    ∃ quote, c.appliedQuote school key amount = .ok quote := by
  unfold appliedQuote
  split
  · exact ⟨_, rfl⟩
  · exact h

/-- All layers are priced when the three that need a sheet are. -/
theorem exists_quotes_iff :
    (∃ quotes, c.quotes school key amount = .ok quotes) ↔
      ∀ p ∈ sheetLayers c.config.gatewayId school, c.sheets.Prices key amount p.2 := by
  simp only [sheetLayers, List.forall_mem_cons, List.not_mem_nil, false_implies, implies_true,
    and_true]
  refine ⟨?_, ?_⟩
  · intro h
    obtain ⟨priced, h⟩ := h
    simp only [quotes, Outcome.bind_eq_ok, Outcome.mapError_eq_ok] at h
    obtain ⟨gateway, hgateway, base, hbase, final, hfinal, -⟩ := h
    exact ⟨⟨gateway, hgateway⟩, ⟨base, hbase⟩, ⟨final, hfinal⟩⟩
  · intro h
    obtain ⟨⟨gateway, hgateway⟩, ⟨base, hbase⟩, ⟨final, hfinal⟩⟩ := h
    have hpriced : c.sheets.Prices key amount (finalChain school) := ⟨final, hfinal⟩
    obtain ⟨applied, happlied⟩ := appliedQuote_of_final hpriced
    refine ⟨⟨gateway, base, final, applied⟩, ?_⟩
    simp only [quotes, Outcome.bind_eq_ok, Outcome.mapError_eq_ok]
    exact ⟨gateway, hgateway, base, hbase, final, hfinal, applied, happlied, rfl⟩

/-- The error of the layers is that of the first of them without a price. -/
theorem quotes_eq_error_iff {e : FeeError} :
    c.quotes school key amount = .error e ↔
      ∃ layer cause, e = .layerFailed layer cause ∧
        c.sheets.FirstUnpriced key amount (sheetLayers c.config.gatewayId school) layer cause := by
  simp only [quotes, Outcome.bind_eq_error, Outcome.mapError_eq_error, Outcome.mapError_eq_ok]
  refine ⟨?_, ?_⟩
  · intro h
    rcases h with ⟨cause, hgateway, rfl⟩ | ⟨gateway, hgateway, h⟩
    · exact ⟨_, cause, rfl, .here hgateway⟩
    rcases h with ⟨cause, hbase, rfl⟩ | ⟨base, hbase, h⟩
    · exact ⟨_, cause, rfl, .later ⟨gateway, hgateway⟩ (.here hbase)⟩
    rcases h with ⟨cause, hfinal, rfl⟩ | ⟨final, hfinal, h⟩
    · exact ⟨_, cause, rfl, .later ⟨gateway, hgateway⟩ (.later ⟨base, hbase⟩ (.here hfinal))⟩
    rcases h with ⟨cause, happlied, rfl⟩ | ⟨applied, happlied, h⟩
    · -- The final sheet has a price, so the applied layer cannot be without one.
      have hpriced : c.sheets.Prices key amount (finalChain school) := ⟨final, hfinal⟩
      obtain ⟨applied, h⟩ := appliedQuote_of_final hpriced
      rw [happlied] at h
      cases h
    · cases h
  · intro h
    obtain ⟨layer, cause, rfl, h⟩ := h
    cases h with
    | here hgateway => exact Or.inl ⟨cause, hgateway, rfl⟩
    | later hgateway h =>
      obtain ⟨gateway, hgateway⟩ := hgateway
      refine Or.inr ⟨gateway, hgateway, ?_⟩
      cases h with
      | here hbase => exact Or.inl ⟨cause, hbase, rfl⟩
      | later hbase h =>
        obtain ⟨base, hbase⟩ := hbase
        refine Or.inr ⟨base, hbase, ?_⟩
        cases h with
        | here hfinal => exact Or.inl ⟨cause, hfinal, rfl⟩
        | later hfinal h => cases h

/-! ### The commission -/

theorem exists_compute_iff {request : CommissionRequest} :
    (∃ commission, c.compute request = .ok commission) ↔
      ∃ amount, c.orderAmount request.transaction = .ok amount ∧
        ∃ quotes, c.quotes request.school request.key amount = .ok quotes := by
  simp only [compute, Outcome.bind_eq_ok]
  refine ⟨?_, ?_⟩
  · intro h
    obtain ⟨commission, amount, hamount, quotes, hquotes, -⟩ := h
    exact ⟨amount, hamount, quotes, hquotes⟩
  · intro h
    obtain ⟨amount, hamount, quotes, hquotes⟩ := h
    exact ⟨_, amount, hamount, quotes, hquotes, rfl⟩

theorem compute_eq_error_iff {request : CommissionRequest} {e : FeeError} :
    c.compute request = .error e ↔
      c.orderAmount request.transaction = .error e ∨
        ∃ amount, c.orderAmount request.transaction = .ok amount ∧
          c.quotes request.school request.key amount = .error e := by
  simp only [compute, Outcome.bind_eq_error]
  refine ⟨?_, ?_⟩
  · intro h
    rcases h with h | ⟨amount, hamount, h | ⟨quotes, -, h⟩⟩
    · exact Or.inl h
    · exact Or.inr ⟨amount, hamount, h⟩
    · cases h
  · intro h
    rcases h with h | ⟨amount, hamount, h⟩
    · exact Or.inl h
    · exact Or.inr ⟨amount, hamount, Or.inl h⟩

/-! ### The whole law -/

/-- The errors of a computation are the reasons, in their order of priority. -/
theorem compute_eq_error_iff_fails {s : PricingState} (prompt : s.Prompt) {config : Config}
    {request : CommissionRequest} {e : FeeError} :
    (Cascade.mk config s.sheets s.payments).compute request = .error e ↔
      s.Fails config.gatewayId request e := by
  rw [compute_eq_error_iff, orderAmount_of_undelayed prompt.undelayed]
  by_cases failing : request.transaction ∈ s.payments.failing
  · simp only [if_pos failing]
    refine ⟨?_, ?_⟩
    · intro h
      rcases h with h | ⟨_, h, _⟩
      · cases h
        exact .refused failing
      · cases h
    · intro h
      cases h with
      | refused _ => exact Or.inl rfl
      | noAmount answers _ => exact absurd failing answers
      | noPrice answers _ _ => exact absurd failing answers
  · simp only [if_neg failing]
    cases hamount : s.payments.amounts.get? request.transaction with
    | none =>
      refine ⟨?_, ?_⟩
      · intro h
        rcases h with h | ⟨_, h, _⟩
        · cases h
          exact .noAmount failing hamount
        · cases h
      · intro h
        cases h with
        | refused h => exact absurd h failing
        | noAmount _ _ => exact Or.inl rfl
        | noPrice _ ordered _ => rw [hamount] at ordered; cases ordered
    | some amount =>
      refine ⟨?_, ?_⟩
      · intro h
        rcases h with h | ⟨amount', h, hquotes⟩
        · cases h
        · cases h
          obtain ⟨layer, cause, rfl, unpriced⟩ := quotes_eq_error_iff.mp hquotes
          exact .noPrice failing hamount unpriced
      · intro h
        cases h with
        | refused h => exact absurd h failing
        | noAmount _ unknown => rw [hamount] at unknown; cases unknown
        | noPrice _ ordered unpriced =>
          rw [hamount] at ordered
          cases ordered
          exact Or.inr ⟨amount, rfl, quotes_eq_error_iff.mpr ⟨_, _, rfl, unpriced⟩⟩

/-- A computation succeeds when the amount is to be had and the three layers are priced. -/
theorem exists_compute_iff_priced {s : PricingState} (prompt : s.Prompt) {config : Config}
    {request : CommissionRequest} :
    (∃ commission, (Cascade.mk config s.sheets s.payments).compute request = .ok commission) ↔
      request.transaction ∉ s.payments.failing ∧
        ∃ amount, s.payments.amounts.get? request.transaction = some amount ∧
          ∀ p ∈ sheetLayers config.gatewayId request.school,
            s.sheets.Prices request.key amount p.2 := by
  rw [exists_compute_iff, orderAmount_of_undelayed prompt.undelayed]
  by_cases failing : request.transaction ∈ s.payments.failing
  · simp [failing]
  · simp only [if_neg failing, exists_quotes_iff]
    cases hamount : s.payments.amounts.get? request.transaction with
    | none => simp
    | some amount => simp [failing]

/--
**What a computation answers.**  It succeeds just when the backend answers about the
transaction, knows its amount, and each of the three chains has a price for that
amount.  Otherwise its error is the first reason of `Fails`; the applied layer is never
the one that is told.  Nothing else that the backend knows, and nothing that it refuses
to say about other names, changes whether it succeeds or which error it tells.
-/
theorem compute_outcome (s : PricingState) (reached : s.Reached) (config : Config)
    (valid : config.check = .ok ()) (request : CommissionRequest) :
    ∃ c, create config s.sheets s.payments = .ok c ∧
      ((∃ commission, c.compute request = .ok commission) ↔
        request.transaction ∉ s.payments.failing ∧
          ∃ amount, s.payments.amounts.get? request.transaction = some amount ∧
            s.sheets.Prices request.key amount [.gateway config.gatewayId] ∧
            s.sheets.Prices request.key amount
              [.schoolBase request.school.id, .trusteeBase request.school.trusteeId] ∧
            s.sheets.Prices request.key amount [.schoolFinal request.school.id]) ∧
      (∀ e, c.compute request = .error e ↔ s.Fails config.gatewayId request e) ∧
      (∀ cause, c.compute request ≠ .error (.layerFailed .applied cause)) ∧
      ∀ s' : PricingState, s'.Reached → s'.sheets = s.sheets →
        s'.payments.amounts.get? request.transaction =
          s.payments.amounts.get? request.transaction →
        (request.transaction ∈ s'.payments.failing ↔ request.transaction ∈ s.payments.failing) →
        ∃ c', create config s'.sheets s'.payments = .ok c' ∧
          ((∃ commission, c'.compute request = .ok commission) ↔
            ∃ commission, c.compute request = .ok commission) ∧
          ∀ e, c'.compute request = .error e ↔ c.compute request = .error e := by
  refine ⟨_, create_of_check valid _ _, ?_, fun e => compute_eq_error_iff_fails reached.prompt,
    ?_, ?_⟩
  · rw [exists_compute_iff_priced reached.prompt]
    simp [sheetLayers]
  · intro cause h
    cases (compute_eq_error_iff_fails reached.prompt).mp h with
    | noPrice _ _ unpriced =>
      have layer := unpriced.mem
      simp [sheetLayers] at layer
  · intro s' reached' sheets amount refusal
    have same : ∀ e, (Cascade.mk config s'.sheets s'.payments).compute request = .error e ↔
        (Cascade.mk config s.sheets s.payments).compute request = .error e := by
      intro e
      rw [compute_eq_error_iff_fails reached'.prompt, compute_eq_error_iff_fails reached.prompt]
      exact ⟨PricingState.fails_congr sheets.symm amount.symm refusal.symm,
        PricingState.fails_congr sheets amount refusal⟩
    refine ⟨_, create_of_check valid _ _, ?_, same⟩
    rw [exists_compute_iff_priced reached'.prompt, exists_compute_iff_priced reached.prompt, sheets,
      amount, refusal]

/-- A gateway and a school with standard sheets, no base rate, and a backend that knows one amount
and refuses to answer about the school. -/
def withoutBaseRate : PricingState :=
  ⟨⟨((∅ : Registry Owner Catalog).set (.gateway "pg") .standard).set (.schoolFinal "s1") .standard,
      [], []⟩,
    (Payments.empty.setAmount "x1" 1500).failFor "s1"⟩

theorem reached_withoutBaseRate : withoutBaseRate.Reached := by
  have gateway := PricingState.Reached.empty.after (.putSheet (.gateway "pg") .standard) rfl
  have final := gateway.after (.putSheet (.schoolFinal "s1") .standard) rfl
  have amount := final.after (.setAmount "x1" 1500) rfl
  exact amount.after (.failFor "s1") rfl

/-- The missing base rate is what is told, although the applied layer cannot be asked either. -/
theorem compute_outcome_withoutBaseRate :
    withoutBaseRate.Reached ∧ (Config.mk "pg" 0 1 ⟨1⟩ 0).check = .ok () ∧
      ∃ c, create ⟨"pg", 0, 1, ⟨1⟩, 0⟩ withoutBaseRate.sheets withoutBaseRate.payments = .ok c ∧
        c.compute ⟨⟨"s1", "t1"⟩, "x1", ⟨"UPI", "Corporate"⟩⟩ =
          .error (.layerFailed .schoolBase (.noChargeConfigured ⟨"UPI", "Corporate"⟩)) := by
  have valid : (Config.mk "pg" 0 1 ⟨1⟩ 0).check = .ok () := Config.check_eq_ok.mpr (by decide)
  refine ⟨reached_withoutBaseRate, valid, ?_⟩
  obtain ⟨c, created, -, errors, -⟩ := compute_outcome withoutBaseRate reached_withoutBaseRate
    ⟨"pg", 0, 1, ⟨1⟩, 0⟩ valid ⟨⟨"s1", "t1"⟩, "x1", ⟨"UPI", "Corporate"⟩⟩
  refine ⟨c, created, (errors _).mpr (.noPrice (by decide) rfl ?_)⟩
  exact .later ⟨.ofTier (.sheet (.gateway "pg")) ⟨some 2000, .flat, 0⟩ 1500, by rfl⟩ (.here rfl)

end Cascade

end SchoolFees

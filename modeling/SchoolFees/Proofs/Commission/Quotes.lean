/-
What a successful computation is made of.

A quote from a chain of owners comes from the sheet of one of them, and a chain without a
price has none for one of three reasons.  Both facts are by induction on the chain, which
is passed along owner by owner.  A commission is an amount, a quote for each layer and the
figures that follow from the fees; `compute_eq_ok_iff` says so once, and what is proved
about commissions starts from there.

Wherever a quote comes from, its fee is what its tier charges on the order amount.
-/
import SchoolFees.Proofs.Commission.Failures

namespace SchoolFees

namespace SheetStore

variable {s : SheetStore} {owner : Owner} {key : ChargeKey} {amount : Decimal}

theorem entryOf_eq_some_iff {entry : Entry} :
    s.entryOf owner key = .ok (some entry) ↔
      ∃ sheet, s.read owner = .ok (some sheet) ∧ sheet.lookup key = .ok entry := by
  unfold entryOf
  rw [Outcome.bind_eq_ok]
  refine ⟨?_, ?_⟩
  · intro h
    obtain ⟨found, hread, h⟩ := h
    cases found with
    | none => cases h
    | some sheet =>
      have hlookup : (sheet.lookup key).toOption = some entry := Except.ok.inj h
      exact ⟨sheet, hread, Outcome.toOption_eq_some_iff.mp hlookup⟩
  · intro h
    obtain ⟨sheet, hread, hlookup⟩ := h
    exact ⟨some sheet, hread, congrArg Except.ok (Outcome.toOption_eq_some_iff.mpr hlookup)⟩

/-- Asking for an entry fails only where the sheet cannot be read. -/
theorem entryOf_eq_error_iff {e : FeeError} :
    s.entryOf owner key = .error e ↔ s.read owner = .error e := by
  unfold entryOf
  cases s.read owner with
  | error e' => simp [bind, Except.bind]
  | ok sheet =>
    cases sheet with
    | none => simp [bind, Except.bind, pure, Except.pure]
    | some sheet => simp [bind, Except.bind, pure, Except.pure]

/-- A quote is that of the tier which the entry of some owner's sheet has for the amount. -/
theorem exists_entry_of_quote {chain : List Owner} {quote : Quote}
    (h : s.quote key amount chain = .ok quote) :
    ∃ owner ∈ chain, ∃ entry tier, s.entryOf owner key = .ok (some entry) ∧
      entry.tiers.select amount = .ok tier ∧ quote = Quote.ofTier (.sheet owner) tier amount := by
  induction chain with
  | nil => cases h
  | cons owner rest ih =>
    obtain ⟨found, hentry, h⟩ := Outcome.bind_eq_ok.mp h
    cases found with
    | none =>
      obtain ⟨other, hmem, hquote⟩ := ih h
      exact ⟨other, List.mem_cons_of_mem _ hmem, hquote⟩
    | some entry =>
      obtain ⟨tier, hselect, h⟩ := Outcome.bind_eq_ok.mp h
      cases h
      exact ⟨owner, List.mem_cons_self, entry, tier, hentry, hselect, rfl⟩

/-- Why a chain has no price for an amount. -/
inductive Unpriced (s : SheetStore) (key : ChargeKey) (amount : Decimal) (chain : List Owner) :
    FeeError → Prop
  | unreadable {owner : Owner} {e : FeeError} (h : owner ∈ chain)
      (refused : s.read owner = .error e) : Unpriced s key amount chain e
  | untiered {owner : Owner} {entry : Entry} {e : FeeError} (h : owner ∈ chain)
      (found : s.entryOf owner key = .ok (some entry))
      (unmatched : entry.tiers.select amount = .error e) : Unpriced s key amount chain e
  | unknown : Unpriced s key amount chain (.noChargeConfigured key)

theorem unpriced_of_quote {chain : List Owner} {e : FeeError}
    (h : s.quote key amount chain = .error e) : s.Unpriced key amount chain e := by
  induction chain with
  | nil => cases h; exact .unknown
  | cons owner rest ih =>
    rcases Outcome.bind_eq_error.mp h with h | ⟨found, hentry, h⟩
    · exact .unreadable List.mem_cons_self (entryOf_eq_error_iff.mp h)
    · cases found with
      | none =>
        cases ih h with
        | unreadable hmem refused => exact .unreadable (List.mem_cons_of_mem _ hmem) refused
        | untiered hmem found unmatched =>
          exact .untiered (List.mem_cons_of_mem _ hmem) found unmatched
        | unknown => exact .unknown
      | some entry =>
        rcases Outcome.bind_eq_error.mp h with h | ⟨tier, -, h⟩
        · exact .untiered List.mem_cons_self hentry h
        · cases h

end SheetStore

namespace Quote

/-- The fee of the quote is what its tier charges on this amount. -/
def PricedOn (q : Quote) (amount : Decimal) : Prop := q.fee = q.tier.fee amount

theorem pricedOn_of_quote {s : SheetStore} {key : ChargeKey} {amount : Decimal} {chain : List Owner}
    {quote : Quote} (h : s.quote key amount chain = .ok quote) : quote.PricedOn amount := by
  obtain ⟨owner, -, entry, tier, -, -, rfl⟩ := SheetStore.exists_entry_of_quote h
  rfl

end Quote

namespace Cascade

variable {c : Cascade} {school : School} {key : ChargeKey} {amount : Decimal}

theorem pricedOn_of_appliedQuote {quote : Quote}
    (h : c.appliedQuote school key amount = .ok quote) : quote.PricedOn amount := by
  unfold appliedQuote at h
  split at h
  · cases h
    rfl
  · exact Quote.pricedOn_of_quote h

theorem quotes_eq_ok_iff {quotes : Layers Quote} :
    c.quotes school key amount = .ok quotes ↔
      c.sheets.quote key amount c.gatewayChain = .ok quotes.gatewayBuying ∧
        c.sheets.quote key amount (baseChain school) = .ok quotes.schoolBase ∧
        c.sheets.quote key amount (finalChain school) = .ok quotes.schoolFinal ∧
        c.appliedQuote school key amount = .ok quotes.applied := by
  simp only [Cascade.quotes, Outcome.bind_eq_ok, Outcome.mapError_eq_ok]
  refine ⟨?_, ?_⟩
  · intro h
    obtain ⟨gateway, hgateway, base, hbase, final, hfinal, applied, happlied, h⟩ := h
    cases h
    exact ⟨hgateway, hbase, hfinal, happlied⟩
  · intro h
    obtain ⟨hgateway, hbase, hfinal, happlied⟩ := h
    exact ⟨_, hgateway, _, hbase, _, hfinal, _, happlied, rfl⟩

/-- **A commission is an amount, its quotes, and the figures of their fees.** -/
theorem compute_eq_ok_iff {request : CommissionRequest} {commission : Commission} :
    c.compute request = .ok commission ↔
      c.orderAmount request.transaction = .ok commission.orderAmount ∧
        c.quotes request.school request.key commission.orderAmount = .ok commission.quotes ∧
        commission.transaction = request.transaction ∧
        commission.figures = Figures.ofFees commission.fees ∧
        commission.taxed = commission.figures.taxed c.config.gstRate := by
  simp only [compute, Outcome.bind_eq_ok]
  refine ⟨?_, ?_⟩
  · intro h
    obtain ⟨amount, hamount, quotes, hquotes, h⟩ := h
    cases h
    exact ⟨hamount, hquotes, rfl, rfl, rfl⟩
  · intro h
    obtain ⟨hamount, hquotes, htransaction, hfigures, htaxed⟩ := h
    obtain ⟨transaction, orderAmount, quotes, figures, taxed⟩ := commission
    change figures = Figures.ofFees (quotes.map (·.fee)) at hfigures
    dsimp only at hamount hquotes htransaction htaxed
    subst htransaction hfigures htaxed
    exact ⟨orderAmount, hamount, quotes, hquotes, rfl⟩

end Cascade

end SchoolFees

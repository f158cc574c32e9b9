/-
Valid sheets price every amount.

A chain of owners can fail to price an amount in three ways, and one of them is that the
table which was found has no tier for it.  On sheets that were validated entry by entry
this way does not exist: every table in them has a tier for every amount, and the entry
that a chain finds is an entry of a stored sheet.  What is true of all stored entries is
therefore true of the one that prices (`entryOf`), which is also how the bounds on the
numbers of a tier reach the fees.
-/
import SchoolFees.Proofs.Commission.Quotes
import SchoolFees.Proofs.Sheets.Writers

namespace SchoolFees

/-- The entry that prices a key is an entry of the catalog. -/
theorem Catalog.mem_of_lookup {c : Catalog} {key : ChargeKey} {entry : Entry}
    (h : c.lookup key = .ok entry) : entry ∈ c.entries := by
  have found := Outcome.toOption_eq_some_iff.mpr h
  rw [toOption_lookup, Option.orElse_eq_orElse, Option.orElse_eq_or,
    Option.or_eq_some_iff] at found
  rcases found with own | ⟨-, fallback⟩
  · exact List.mem_of_find?_eq_some own
  · exact List.mem_of_find?_eq_some fallback

namespace SheetStore

variable {s : SheetStore} {keys : ChargeKey → Prop} {tables : TierTable → Prop} {owner : Owner}
  {key : ChargeKey} {amount : Decimal} {chain : List Owner}

theorem read_eq_some {sheet : Catalog} (h : s.read owner = .ok (some sheet)) :
    sheet ∈ s.sheets.get? owner := by
  unfold read at h
  split at h
  · cases h
  · exact Except.ok.inj h

theorem read_eq_error {e : FeeError} (h : s.read owner = .error e) :
    e = .storage (.readRefused owner) := by
  unfold read at h
  split at h
  · exact (Except.error.inj h).symm
  · cases h

theorem Holds.entryOf (holds : s.Holds keys tables) {entry : Entry}
    (h : s.entryOf owner key = .ok (some entry)) : keys entry.key ∧ tables entry.tiers := by
  obtain ⟨sheet, hread, hlookup⟩ := entryOf_eq_some_iff.mp h
  exact holds owner sheet (read_eq_some hread) entry (Catalog.mem_of_lookup hlookup)

/-- A store in memory can be asked for every entry. -/
theorem exists_entryOf_inMemory (sheets : Registry Owner Catalog) (owner : Owner)
    (key : ChargeKey) : ∃ found, (inMemory sheets).entryOf owner key = .ok found := by
  cases h : (inMemory sheets).entryOf owner key with
  | error e => cases entryOf_eq_error_iff.mp h
  | ok found => exact ⟨found, rfl⟩

/-- Where every table takes every amount, no chain misses a tier. -/
theorem Holds.quote_ne_noMatchingTier
    (holds : s.Holds keys fun table => table.catchAllCount = 1) (unmatched : Decimal) :
    s.quote key amount chain ≠ .error (.noMatchingTier unmatched) := by
  intro h
  cases unpriced_of_quote h with
  | unreadable _ refused => cases read_eq_error refused
  | untiered _ found missed =>
    obtain ⟨tier, selected⟩ := TierTable.exists_select (holds.entryOf found).2 amount
    rw [selected] at missed
    cases missed

/-- Where every table takes every amount, a chain with a charge for the key prices every amount. -/
theorem Holds.exists_quote {sheets : Registry Owner Catalog} {entry : Entry}
    (holds : (inMemory sheets).Holds keys fun table => table.catchAllCount = 1)
    (hmem : owner ∈ chain) (charged : (inMemory sheets).entryOf owner key = .ok (some entry))
    (amount : Decimal) : ∃ quote, (inMemory sheets).quote key amount chain = .ok quote := by
  induction chain with
  | nil => cases hmem
  | cons first rest ih =>
    obtain ⟨found, hfound⟩ := exists_entryOf_inMemory sheets first key
    simp only [quote, Outcome.bind_eq_ok]
    cases found with
    | none =>
      have later : owner ∈ rest := by
        rcases List.mem_cons.mp hmem with rfl | later
        · rw [hfound] at charged
          cases charged
        · exact later
      obtain ⟨quote, hquote⟩ := ih later
      exact ⟨quote, none, hfound, hquote⟩
    | some entry =>
      obtain ⟨tier, selected⟩ := TierTable.exists_select (holds.entryOf hfound).2 amount
      exact ⟨_, some entry, hfound, Outcome.bind_eq_ok.mpr ⟨tier, selected, rfl⟩⟩

/-- Where every table is sensible, so is every tier that prices. -/
theorem Holds.sensible_of_quote (holds : s.Holds keys TierTable.Sensible) {quote : Quote}
    (h : s.quote key amount chain = .ok quote) :
    quote.tier.Sensible ∧ quote.fee = quote.tier.fee amount := by
  obtain ⟨owner, -, entry, tier, found, selected, rfl⟩ := exists_entry_of_quote h
  exact ⟨(holds.entryOf found).2.tiers tier (TierTable.mem_of_select selected), rfl⟩

theorem FirstUnpriced.exists_chain {layers : List (Layer × List Owner)} {layer : Layer}
    {cause : FeeError} (h : s.FirstUnpriced key amount layers layer cause) :
    ∃ chain, s.quote key amount chain = .error cause := by
  induction h with
  | here unpriced => exact ⟨_, unpriced⟩
  | later priced h ih => exact ih

end SheetStore

/-- A deadline lets an answer through or puts a timeout in its place. -/
theorem Call.within_answer {α : Type} (call : Call α) (limit : Duration) :
    (call.within limit).answer = call.answer ∨
      (call.within limit).answer = .error (.timeout limit) := by
  unfold within
  split
  · exact .inl rfl
  · exact .inr rfl

namespace Cascade

variable {c : Cascade} {layer : Layer} {cause : FeeError}

theorem sheets_of_create {config : Config} {s : SheetStore} {p : Payments}
    (h : create config s p = .ok c) : c.sheets = s := by
  obtain ⟨_, -, h⟩ := Outcome.bind_eq_ok.mp h
  obtain ⟨_, -, h⟩ := Outcome.bind_eq_ok.mp h
  cases h
  rfl

/-- Fetching the amount is no layer's business. -/
theorem orderAmount_ne_layerFailed (transaction : String) :
    c.orderAmount transaction ≠ .error (.layerFailed layer cause) := by
  intro h
  rcases Outcome.bind_eq_error.mp h with h | ⟨found, -, h⟩
  · rcases Call.within_answer (c.payments.orderAmount transaction) c.config.callTimeout with
      intime | late
    · rw [intime] at h
      unfold Payments.orderAmount Payments.answer at h
      dsimp only at h
      split at h
      · cases h
      · cases h
    · rw [late] at h
      cases h
  · cases found with
    | none => cases h
    | some amount => cases h

/-- A layer fails for the reason that some chain of owners has. -/
theorem exists_chain_of_layerFailed {request : CommissionRequest}
    (h : c.compute request = .error (.layerFailed layer cause)) :
    ∃ amount chain, c.sheets.quote request.key amount chain = .error cause := by
  rcases compute_eq_error_iff.mp h with h | ⟨amount, -, h⟩
  · exact absurd h (orderAmount_ne_layerFailed _)
  · obtain ⟨layer', cause', same, unpriced⟩ := quotes_eq_error_iff.mp h
    cases same
    exact ⟨amount, unpriced.exists_chain⟩

end Cascade

namespace SheetStore

variable {s : SheetStore}

/-! ### What the supplied validators leave behind -/

/-- Whoever writes, every key says something and every table takes every amount. -/
theorem Written.wellFormed (written : s.Written Validator.Supplied Catalog.Built) :
    s.Holds ChargeKey.Named fun table => table.catchAllCount = 1 := by
  have standard : Catalog.Holds ChargeKey.Named (fun table => table.catchAllCount = 1) .standard :=
    fun e he => ⟨(Catalog.holds_standard e he).1, (Catalog.holds_standard e he).2.catchAll⟩
  have checked : Validator.standard.Ensures ChargeKey.Named fun table => table.catchAllCount = 1 :=
    fun entry h => Validator.standard_eq_ok_iff.mp h
  refine written.holds ?_ standard ?_
  · rintro accepts (rfl | rfl)
    · exact checked
    · intro entry h
      obtain ⟨named, sensible⟩ := Validator.strict_eq_ok_iff.mp h
      exact ⟨named, sensible.catchAll⟩
  · rintro sheet (rfl | ⟨entries, h⟩)
    · exact standard
    · exact Catalog.holds_addAll checked Catalog.holds_empty h

/-- Where all managers are strict and nothing is put past them, all tables are sensible too. -/
theorem Written.sensible (written : s.Written (· = Validator.strict) fun _ => False) :
    s.Holds ChargeKey.Named TierTable.Sensible := by
  refine written.holds ?_ Catalog.holds_standard fun _ h => h.elim
  rintro accepts rfl entry h
  exact Validator.strict_eq_ok_iff.mp h

/--
**Valid sheets price every amount.**  In a store that was written through managers with a
supplied validator and by puts of catalogs that were built, every stored entry is well
formed, so no amount is without a tier, for no chain of owners and in no commission, and a
chain with a charge for the key prices every amount.  If all managers were strict and
nothing was put, every stored entry passes the strict check, and on an amount that is not
below zero no fee is below zero, and no percentage above the amount unless its digits are
rounded.
-/
theorem valid_sheets_price (s : SheetStore)
    (written : s.Written Validator.Supplied Catalog.Built) :
    (∀ owner, ∀ sheet ∈ s.sheets.get? owner, ∀ e ∈ sheet.entries,
      ¬ Text.isAllBlank e.key.platform ∧ ¬ Text.isAllBlank e.key.mode ∧
        e.tiers.catchAllCount = 1) ∧
    (∀ key amount chain,
      (∀ unmatched, s.quote key amount chain ≠ .error (.noMatchingTier unmatched)) ∧
        ∀ owner ∈ chain, ∀ entry, s.entryOf owner key = .ok (some entry) →
          ∃ quote, s.quote key amount chain = .ok quote) ∧
    (∀ config payments c request layer unmatched, Cascade.create config s payments = .ok c →
      c.compute request ≠ .error (.layerFailed layer (.noMatchingTier unmatched))) ∧
    (s.Written (· = Validator.strict) (fun _ => False) →
      (∀ owner, ∀ sheet ∈ s.sheets.get? owner, ∀ e ∈ sheet.entries,
        Validator.strict e = .ok ()) ∧
      ∀ key amount chain quote, 0 ≤ amount → s.quote key amount chain = .ok quote →
        0 ≤ quote.fee ∧
          (quote.tier.kind = .percent → (quote.tier.charge * amount).significantDigits ≤ 100 →
            quote.fee ≤ amount)) := by
  have wellFormed := written.wellFormed
  obtain ⟨sheets, rfl⟩ := written.exists_inMemory
  refine ⟨?_, ?_, ?_, ?_⟩
  · intro owner sheet hsheet e he
    obtain ⟨⟨platform, mode⟩, single⟩ := wellFormed owner sheet hsheet e he
    exact ⟨platform, mode, single⟩
  · intro key amount chain
    refine ⟨wellFormed.quote_ne_noMatchingTier, ?_⟩
    intro owner hmem entry charged
    exact wellFormed.exists_quote hmem charged amount
  · intro config payments c request layer unmatched created failed
    obtain ⟨amount, chain, h⟩ := Cascade.exists_chain_of_layerFailed failed
    rw [Cascade.sheets_of_create created] at h
    exact wellFormed.quote_ne_noMatchingTier unmatched h
  · intro strictly
    have sensible := strictly.sensible
    refine ⟨?_, ?_⟩
    · intro owner sheet hsheet e he
      exact Validator.strict_eq_ok_iff.mpr (sensible owner sheet hsheet e he)
    · intro key amount chain quote nonneg h
      obtain ⟨tier, fee⟩ := sensible.sensible_of_quote h
      rw [fee]
      exact ⟨tier.fee_nonneg nonneg, fun percent few => tier.fee_le percent nonneg few⟩

/-- A strict manager seeds a sheet and gives one of its keys new tiers, under another spelling. -/
def strictCalls : List ManagerCall :=
  [.changeSheet .strict (.gateway "pg") .ensureDefaults,
    .changeSheet .strict (.gateway "pg") (.updateCharge
      ⟨⟨"upi", "OTHERS"⟩, [⟨some 1000, .flat, 5⟩, ⟨none, .percent, ⟨15, 1⟩⟩]⟩)]

/-- The store after those calls. -/
def strictlyPriced : SheetStore := (empty.run strictCalls).2

theorem written_strictlyPriced {validators : Validator → Prop} {puts : Catalog → Prop}
    (strict : validators .strict) : strictlyPriced.Written validators puts := by
  refine Written.empty.run ?_
  simp only [strictCalls, List.forall_mem_cons, List.not_mem_nil, false_implies, implies_true,
    and_true]
  exact ⟨strict, strict⟩

/-- The entry kept its spelling, has its new tiers, and prices the modes without a charge. -/
theorem valid_sheets_price_strictlyPriced :
    strictlyPriced.Written Validator.Supplied Catalog.Built ∧
      strictlyPriced.Written (· = Validator.strict) (fun _ => False) ∧
      ∃ quote, strictlyPriced.quote ⟨"UPI", "Corporate"⟩ 5000 [.gateway "pg"] = .ok quote ∧
        0 ≤ quote.fee ∧ quote.fee ≤ 5000 := by
  have written : strictlyPriced.Written Validator.Supplied Catalog.Built :=
    written_strictlyPriced (.inr rfl)
  obtain ⟨-, -, -, strictly⟩ := valid_sheets_price strictlyPriced written
  have strict : strictlyPriced.Written (· = Validator.strict) fun _ => False :=
    written_strictlyPriced rfl
  obtain ⟨-, bounds⟩ := strictly strict
  have priced : strictlyPriced.quote ⟨"UPI", "Corporate"⟩ 5000 [.gateway "pg"] =
      .ok (.ofTier (.sheet (.gateway "pg")) ⟨none, .percent, ⟨15, 1⟩⟩ 5000) := by decide +kernel
  obtain ⟨nonneg, le⟩ := bounds _ _ _ _ (by decide +kernel) priced
  exact ⟨written, strict, _, priced, nonneg, le rfl (by decide +kernel)⟩

end SheetStore

end SchoolFees

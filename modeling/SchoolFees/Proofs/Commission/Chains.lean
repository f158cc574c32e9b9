/-
Which owner of a chain prices a payment.

A chain is passed along from its front.  An owner passes the question on when it has no sheet, or
one with an entry neither under the key nor for the rest of its platform; the first owner that
does not pass it on decides, also where its table has no tier for the amount.  So an earlier
owner's entry for the rest of a platform goes before a later owner's entry under the very key,
and no later owner makes up for a missing tier.

`Decided` says this of a chain and what it comes to, without going through the chain, and
`quote_eq_iff_decided` that it is what a quote is.  How chains that are put together behave
follows: the second one is asked only when all owners of the first pass the question on.
-/
import SchoolFees.Proofs.Commission.Quotes
import SchoolFees.Proofs.Pricing.Selection
import SchoolFees.Proofs.Sheets.Effects

namespace SchoolFees

/-! ### One catalog -/

namespace Catalog

variable {c : Catalog} {key : ChargeKey} {entry : Entry}

/-- The entry is the first of the catalog under this key, in whatever spelling. -/
def FirstUnder (c : Catalog) (key : ChargeKey) (entry : Entry) : Prop :=
  ∃ before after, c.entries = before ++ entry :: after ∧ entry.key.folded = key.folded ∧
    ∀ e ∈ before, e.key.folded ≠ key.folded

/-- The catalog prices the key by this entry. -/
inductive Prices (c : Catalog) (key : ChargeKey) (entry : Entry) : Prop
  /-- The entry is the key's own. -/
  | own (firstUnder : c.FirstUnder key entry) : Prices c key entry
  /-- The key has none, and the entry is that for the rest of its platform. -/
  | fallback (missing : key.folded ∉ c.keys) (firstUnder : c.FirstUnder key.fallback entry) :
      Prices c key entry

/-- The catalog has no entry under the key and none for the rest of its platform. -/
def LeavesOpen (c : Catalog) (key : ChargeKey) : Prop :=
  key.folded ∉ c.keys ∧ key.fallback.folded ∉ c.keys

theorem find?_eq_some_iff_firstUnder : c.find? key = some entry ↔ c.FirstUnder key entry := by
  unfold find? FirstUnder
  rw [List.find?_eq_some_iff_append]
  simp only [ChargeKey.same_iff, Bool.not_eq_true', ← Bool.not_eq_true]
  refine ⟨?_, ?_⟩
  · intro h
    obtain ⟨same, before, after, parts, others⟩ := h
    exact ⟨before, after, parts, same, others⟩
  · intro h
    obtain ⟨before, after, parts, same, others⟩ := h
    exact ⟨same, before, after, parts, others⟩

/-- **A lookup finds the entry that prices the key**, its own before that for the rest. -/
theorem lookup_eq_ok_iff : c.lookup key = .ok entry ↔ c.Prices key entry := by
  rw [← Outcome.toOption_eq_some_iff, toOption_lookup, Option.orElse_eq_orElse,
    Option.orElse_eq_or, Option.or_eq_some_iff, find?_eq_some_iff_firstUnder,
    find?_eq_some_iff_firstUnder, find?_eq_none_iff]
  refine ⟨?_, ?_⟩
  · intro h
    rcases h with firstUnder | ⟨missing, firstUnder⟩
    · exact .own firstUnder
    · exact .fallback missing firstUnder
  · intro h
    cases h with
    | own firstUnder => exact .inl firstUnder
    | fallback missing firstUnder => exact .inr ⟨missing, firstUnder⟩

theorem lookup_toOption_eq_none_iff : (c.lookup key).toOption = none ↔ c.LeavesOpen key := by
  unfold LeavesOpen
  rw [toOption_lookup, Option.orElse_eq_orElse, Option.orElse_eq_or, Option.or_eq_none_iff,
    find?_eq_none_iff, find?_eq_none_iff]

end Catalog

/-! ### One owner -/

namespace SheetStore

variable {sheets : Registry Owner Catalog} {key : ChargeKey} {amount : Decimal} {owner : Owner}
  {entry : Entry} {chain more : List Owner} {outcome : Except FeeError Quote}

/-- The owner has a sheet that prices the key by this entry. -/
def Charges (sheets : Registry Owner Catalog) (key : ChargeKey) (owner : Owner) (entry : Entry) :
    Prop :=
  ∃ sheet, sheets.get? owner = some sheet ∧ sheet.Prices key entry

/-- The owner has no sheet, or one that leaves the key open, as an empty one does. -/
def PassesOn (sheets : Registry Owner Catalog) (key : ChargeKey) (owner : Owner) : Prop :=
  ∀ sheet, sheets.get? owner = some sheet → sheet.LeavesOpen key

theorem entryOf_eq_some_iff_charges :
    (inMemory sheets).entryOf owner key = .ok (some entry) ↔ Charges sheets key owner entry := by
  have read : (inMemory sheets).read owner = .ok (sheets.get? owner) := rfl
  simp only [entryOf_eq_some_iff, read, Except.ok.injEq, Catalog.lookup_eq_ok_iff]
  rfl

theorem entryOf_eq_none_iff_passesOn :
    (inMemory sheets).entryOf owner key = .ok none ↔ PassesOn sheets key owner := by
  have read : (inMemory sheets).read owner = .ok (sheets.get? owner) := rfl
  unfold entryOf PassesOn
  rw [read]
  cases sheets.get? owner with
  | none => simp [bind, Except.bind, pure, Except.pure]
  | some sheet =>
    simp [bind, Except.bind, pure, Except.pure, Catalog.lookup_toOption_eq_none_iff]

theorem passesOn_or_charges (sheets : Registry Owner Catalog) (key : ChargeKey) (owner : Owner) :
    PassesOn sheets key owner ∨ ∃ entry, Charges sheets key owner entry := by
  cases asked : (inMemory sheets).entryOf owner key with
  | error e => cases entryOf_eq_error_iff.mp asked
  | ok found =>
    cases found with
    | none => exact .inl (entryOf_eq_none_iff_passesOn.mp asked)
    | some entry => exact .inr ⟨entry, entryOf_eq_some_iff_charges.mp asked⟩

/-! ### One step along a chain -/

theorem quote_cons_of_passesOn (passes : PassesOn sheets key owner) :
    (inMemory sheets).quote key amount (owner :: chain) =
      (inMemory sheets).quote key amount chain := by
  rw [quote, entryOf_eq_none_iff_passesOn.mpr passes]
  rfl

theorem quote_cons_of_charges (charges : Charges sheets key owner entry) :
    (inMemory sheets).quote key amount (owner :: chain) =
      (entry.tiers.select amount).map fun tier => ⟨.sheet owner, tier, tier.fee amount⟩ := by
  rw [quote, entryOf_eq_some_iff_charges.mpr charges]
  show (entry.tiers.select amount >>= fun tier =>
    pure (Quote.ofTier (.sheet owner) tier amount)) = _
  cases entry.tiers.select amount with
  | error e => rfl
  | ok tier => rfl

/-! ### Chains -/

/-- Owners who pass the question on leave it to those behind them. -/
theorem quote_append_of_passesOn (passed : ∀ o ∈ chain, PassesOn sheets key o) :
    (inMemory sheets).quote key amount (chain ++ more) =
      (inMemory sheets).quote key amount more := by
  induction chain with
  | nil => rfl
  | cons owner rest ih =>
    obtain ⟨head, others⟩ := List.forall_mem_cons.mp passed
    rw [List.cons_append, quote_cons_of_passesOn head, ih others]

/-- What a chain of owners comes to. -/
inductive Decided (sheets : Registry Owner Catalog) (key : ChargeKey) (amount : Decimal)
    (chain : List Owner) : Except FeeError Quote → Prop
  /-- The first owner with a charge for the key has a tier for the amount, and its first such tier
  prices it. -/
  | priced {before after : List Owner} {owner : Owner} {entry : Entry} {lower upper : TierTable}
      {tier : Tier} (parts : chain = before ++ owner :: after)
      (passed : ∀ o ∈ before, PassesOn sheets key o) (charges : Charges sheets key owner entry)
      (tiers : entry.tiers = lower ++ tier :: upper) (accepts : tier.Accepts amount)
      (refuse : ∀ t ∈ lower, ¬ t.Accepts amount) :
      Decided sheets key amount chain (.ok ⟨.sheet owner, tier, tier.fee amount⟩)
  /-- It has no tier for the amount. -/
  | untiered {before after : List Owner} {owner : Owner} {entry : Entry}
      (parts : chain = before ++ owner :: after) (passed : ∀ o ∈ before, PassesOn sheets key o)
      (charges : Charges sheets key owner entry)
      (refuse : ∀ t ∈ entry.tiers, ¬ t.Accepts amount) :
      Decided sheets key amount chain (.error (.noMatchingTier amount))
  /-- No owner has a charge for the key. -/
  | unpriced (passed : ∀ o ∈ chain, PassesOn sheets key o) :
      Decided sheets key amount chain (.error (.noChargeConfigured key))

/-- An owner who passes the question on has no part in what a chain comes to. -/
theorem Decided.cons (passes : PassesOn sheets key owner)
    (h : Decided sheets key amount chain outcome) :
    Decided sheets key amount (owner :: chain) outcome := by
  cases h with
  | priced parts passed charges tiers accepts refuse =>
    exact .priced (congrArg (owner :: ·) parts) (List.forall_mem_cons.mpr ⟨passes, passed⟩) charges
      tiers accepts refuse
  | untiered parts passed charges refuse =>
    exact .untiered (congrArg (owner :: ·) parts) (List.forall_mem_cons.mpr ⟨passes, passed⟩)
      charges refuse
  | unpriced passed => exact .unpriced (List.forall_mem_cons.mpr ⟨passes, passed⟩)

/-- Every chain comes to something. -/
theorem exists_decided (sheets : Registry Owner Catalog) (key : ChargeKey) (amount : Decimal)
    (chain : List Owner) : ∃ outcome, Decided sheets key amount chain outcome := by
  induction chain with
  | nil => exact ⟨_, .unpriced nofun⟩
  | cons owner rest ih =>
    have atFront : owner :: rest = [] ++ owner :: rest := rfl
    rcases passesOn_or_charges sheets key owner with passes | ⟨entry, charges⟩
    · obtain ⟨outcome, decided⟩ := ih
      exact ⟨outcome, decided.cons passes⟩
    · cases selected : entry.tiers.select amount with
      | error e =>
        obtain ⟨refuse, -⟩ := TierTable.select_eq_error_iff.mp selected
        exact ⟨_, .untiered atFront nofun charges refuse⟩
      | ok tier =>
        obtain ⟨lower, upper, tiers, accepts, refuse⟩ := TierTable.select_eq_ok_iff.mp selected
        exact ⟨_, .priced atFront nofun charges tiers accepts refuse⟩

theorem quote_of_decided (h : Decided sheets key amount chain outcome) :
    (inMemory sheets).quote key amount chain = outcome := by
  cases h with
  | priced parts passed charges tiers accepts refuse =>
    rw [parts, quote_append_of_passesOn passed, quote_cons_of_charges charges,
      TierTable.select_eq_ok_iff.mpr ⟨_, _, tiers, accepts, refuse⟩]
    rfl
  | untiered parts passed charges refuse =>
    rw [parts, quote_append_of_passesOn passed, quote_cons_of_charges charges,
      TierTable.select_eq_error_iff.mpr ⟨refuse, rfl⟩]
    rfl
  | unpriced passed =>
    rw [← List.append_nil chain, quote_append_of_passesOn passed]
    rfl

/-- **The quote of a chain is what the chain comes to.** -/
theorem quote_eq_iff_decided :
    (inMemory sheets).quote key amount chain = outcome ↔
      Decided sheets key amount chain outcome := by
  refine ⟨?_, quote_of_decided⟩
  intro h
  obtain ⟨decision, decided⟩ := exists_decided sheets key amount chain
  rw [← h, quote_of_decided decided]
  exact decided

/-- A chain without a charge for the key is one whose owners all pass the question on. -/
theorem passesOn_of_noChargeConfigured {k : ChargeKey}
    (h : (inMemory sheets).quote key amount chain = .error (.noChargeConfigured k)) :
    ∀ o ∈ chain, PassesOn sheets key o := by
  cases quote_eq_iff_decided.mp h with
  | unpriced passed => exact passed

/-- Owners behind the one that decides are not asked. -/
theorem Decided.append (h : Decided sheets key amount chain outcome)
    (charged : outcome ≠ .error (.noChargeConfigured key)) (more : List Owner) :
    Decided sheets key amount (chain ++ more) outcome := by
  cases h with
  | priced parts passed charges tiers accepts refuse =>
    exact .priced (by rw [parts, List.append_assoc, List.cons_append]) passed charges tiers accepts
      refuse
  | untiered parts passed charges refuse =>
    exact .untiered (by rw [parts, List.append_assoc, List.cons_append]) passed charges refuse
  | unpriced passed => exact absurd rfl charged

theorem quote_append_of_charged
    (charged : (inMemory sheets).quote key amount chain ≠ .error (.noChargeConfigured key))
    (more : List Owner) :
    (inMemory sheets).quote key amount (chain ++ more) =
      (inMemory sheets).quote key amount chain :=
  quote_of_decided ((quote_eq_iff_decided.mp rfl).append charged more)

/-- An owner who has been asked is not asked again. -/
theorem quote_append_cons_of_mem (asked : owner ∈ chain) (more : List Owner) :
    (inMemory sheets).quote key amount (chain ++ owner :: more) =
      (inMemory sheets).quote key amount (chain ++ more) := by
  by_cases charged : (inMemory sheets).quote key amount chain = .error (.noChargeConfigured key)
  · have passed := passesOn_of_noChargeConfigured charged
    rw [quote_append_of_passesOn passed, quote_append_of_passesOn passed,
      quote_cons_of_passesOn (passed owner asked)]
  · rw [quote_append_of_charged charged, quote_append_of_charged charged]

/--
**The first owner with a charge for the key decides.**  A quote is what the chain comes to: the
first tier for the amount in the entry of the first owner that does not pass the question on, or
that there is no such tier, or no such owner.  Two chains put together come to what the first one
comes to, and where that has no charge to what the second one does; and an owner that is named
again makes no difference.
-/
theorem quote_decided_by_first (sheets : Registry Owner Catalog) (key : ChargeKey)
    (amount : Decimal) :
    (∀ chain outcome, (inMemory sheets).quote key amount chain = outcome ↔
      Decided sheets key amount chain outcome) ∧
      (∀ chain more,
        (inMemory sheets).quote key amount chain ≠ .error (.noChargeConfigured key) →
        (inMemory sheets).quote key amount (chain ++ more) =
          (inMemory sheets).quote key amount chain) ∧
      (∀ chain more k,
        (inMemory sheets).quote key amount chain = .error (.noChargeConfigured k) →
        (inMemory sheets).quote key amount (chain ++ more) =
          (inMemory sheets).quote key amount more) ∧
      ∀ chain owner more, owner ∈ chain →
        (inMemory sheets).quote key amount (chain ++ owner :: more) =
          (inMemory sheets).quote key amount (chain ++ more) := by
  refine ⟨fun chain outcome => quote_eq_iff_decided, ?_, ?_, ?_⟩
  · intro chain more charged
    exact quote_append_of_charged charged more
  · intro chain more k uncharged
    exact quote_append_of_passesOn (passesOn_of_noChargeConfigured uncharged)
  · intro chain owner more asked
    exact quote_append_cons_of_mem asked more

/-- The gateway's sheet is empty; the school has a base rate for the rest of a platform only, and
its trustee has one under the very key. -/
def restBeforeExact : Registry Owner Catalog :=
  (((∅ : Registry Owner Catalog).set (.gateway "pg") .empty).set (.schoolBase "s1")
      ⟨[⟨⟨"upi", "OTHERS"⟩, [⟨some 1000, .flat, 7⟩]⟩]⟩).set (.trusteeBase "t1")
    ⟨[⟨⟨"UPI", "Corporate"⟩, [⟨none, .flat, 9⟩]⟩]⟩

/-- Behind an owner without a sheet and one with an empty sheet, the school's rate goes before its
trustee's, and naming the school again does not change that. -/
theorem quote_decided_by_first_restBeforeExact :
    (inMemory restBeforeExact).quote ⟨"UPI", "Corporate"⟩ 500 [.schoolFinal "s1", .gateway "pg"] =
        .error (.noChargeConfigured ⟨"UPI", "Corporate"⟩) ∧
      (inMemory restBeforeExact).quote ⟨"UPI", "Corporate"⟩ 500 [.schoolBase "s1"] ≠
        .error (.noChargeConfigured ⟨"UPI", "Corporate"⟩) ∧
      (inMemory restBeforeExact).quote ⟨"UPI", "Corporate"⟩ 500
          ([.schoolFinal "s1", .gateway "pg"] ++
            ([.schoolBase "s1"] ++ .schoolBase "s1" :: [.trusteeBase "t1"])) =
        .ok ⟨.sheet (.schoolBase "s1"), ⟨some 1000, .flat, 7⟩, 7⟩ := by
  have uncharged : (inMemory restBeforeExact).quote ⟨"UPI", "Corporate"⟩ 500
      [.schoolFinal "s1", .gateway "pg"] =
        .error (.noChargeConfigured ⟨"UPI", "Corporate"⟩) := by decide +kernel
  have charged : (inMemory restBeforeExact).quote ⟨"UPI", "Corporate"⟩ 500 [.schoolBase "s1"] ≠
      .error (.noChargeConfigured ⟨"UPI", "Corporate"⟩) := by decide +kernel
  obtain ⟨-, decides, passes, again⟩ :=
    quote_decided_by_first restBeforeExact ⟨"UPI", "Corporate"⟩ 500
  refine ⟨uncharged, charged, ?_⟩
  rw [passes _ _ _ uncharged, again _ _ _ List.mem_cons_self, decides _ _ charged]
  decide +kernel

end SheetStore

end SchoolFees

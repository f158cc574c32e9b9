/-
What a price does not depend on.

A request is priced from little: the entries that four sheets have for its key or for the
rest of its platform, the order amount of its transaction, and the rate that the backend
applied to its school under its key.  `Unrelated` lists what else can happen, with one
constructor for each way: to the sheets of other owners, under other keys, to other
transactions and schools.  Each of these leaves everything that the request is priced from
as it was (`seesAlike_of_unrelated`), so however many of them happen, the request is
answered as before, with the same commission or the same error (`answer_of_unrelated`).

A sheet is looked at through its entries for the key and not as a whole.  That is why it
makes no difference that a charge under another key brings an owner its first sheet, or
takes the last entry off.
-/
import Mathlib.Logic.Relation
import SchoolFees.Proofs.Commission.AppliedRate
import SchoolFees.Proofs.Pricing.CatalogKeys
import SchoolFees.Proofs.Sheets.Locality
import SchoolFees.Proofs.Spelling

namespace SchoolFees

/-! ### Other keys -/

/-- The key is neither this one nor the key of the remaining modes of its platform. -/
structure ChargeKey.Apart (k key : ChargeKey) : Prop where
  own : ¬ k.Respelled key
  rest : ¬ k.Respelled key.fallback

theorem ChargeKey.Apart.of_folded {k key : ChargeKey} (own : k.folded ≠ key.folded)
    (rest : k.folded ≠ key.fallback.folded) : k.Apart key :=
  ⟨mt folded_eq_iff.mpr own, mt folded_eq_iff.mpr rest⟩

namespace Catalog

variable {c c' : Catalog} {k key : ChargeKey} {entry : Entry} {accepts : Validator}

theorem not_same_of_same {l : ChargeKey} (h : l.same k = true) (other : ¬ k.Respelled key) :
    l.same key = false := by
  rw [← Bool.not_eq_true, ChargeKey.same_iff, ChargeKey.same_iff.mp h, ChargeKey.folded_eq_iff]
  exact other

theorem find?_add_of_ne (other : ¬ entry.key.Respelled key) (h : c.add accepts entry = .ok c') :
    c'.find? key = c.find? key := by
  obtain ⟨-, -, rfl⟩ := add_eq_ok_iff.mp h
  have differs := not_same_of_same (ChargeKey.same_refl entry.key) other
  simp [find?, List.find?_append, differs]

theorem find?_replaceTiers_of_ne (other : ¬ k.Respelled key) (tiers : TierTable)
    (entries : List Entry) :
    (Catalog.mk (replaceTiers k tiers entries)).find? key = (Catalog.mk entries).find? key := by
  induction entries with
  | nil => rfl
  | cons e rest ih =>
    unfold find? at ih ⊢
    rw [replaceTiers]
    by_cases same : e.key.same k = true
    · have differs := not_same_of_same same other
      simp [same, differs]
    · simp only [if_neg same, List.find?_cons, ih]

theorem find?_update_of_ne (other : ¬ entry.key.Respelled key) (h : c.update entry = .ok c') :
    c'.find? key = c.find? key := by
  obtain ⟨-, -, rfl⟩ := update_eq_ok_iff.mp h
  exact find?_replaceTiers_of_ne other entry.tiers c.entries

theorem find?_delete_of_ne (other : ¬ k.Respelled key) (h : c.delete k = .ok (entry, c')) :
    c'.find? key = c.find? key := by
  obtain ⟨found, rfl⟩ := delete_eq_ok_iff.mp h
  obtain ⟨before, after, hsplit, hsame, hbefore⟩ := split_of_find? found
  unfold find?
  rw [hsplit, eraseP_of_split hbefore hsame, List.find?_append, List.find?_append,
    List.find?_cons_of_neg (by simp [not_same_of_same hsame other])]

end Catalog

/-- The key that a change is about, where it is about one. -/
def SheetChange.key? : SheetChange → Option ChargeKey
  | .ensureDefaults => none
  | .addCharge entry => some entry.key
  | .updateCharge entry => some entry.key
  | .deleteCharge key => some key

/-- A change under another key leaves a sheet with the entry that it had for this key, or without
one, whether there was a sheet or not. -/
theorem SheetChange.lookup_of_revise {accepts : Validator} {owner : Owner} {change : SheetChange}
    {k key : ChargeKey} {sheet : Option Catalog} {answer : ChangeAnswer} {revised : Catalog}
    (about : change.key? = some k) (apart : k.Apart key)
    (h : change.revise accepts owner sheet = .ok ⟨answer, some revised⟩) :
    (revised.lookup key).toOption = ((sheet.getD .empty).lookup key).toOption := by
  have same : revised.find? key = (sheet.getD .empty).find? key ∧
      revised.find? key.fallback = (sheet.getD .empty).find? key.fallback := by
    cases change with
    | ensureDefaults => cases about
    | addCharge entry =>
      cases about
      obtain ⟨c, hadd, h⟩ := Outcome.bind_eq_ok.mp h
      cases h
      exact ⟨Catalog.find?_add_of_ne apart.own hadd, Catalog.find?_add_of_ne apart.rest hadd⟩
    | updateCharge entry =>
      cases about
      cases sheet with
      | none => cases h
      | some c =>
        obtain ⟨c', hupdate, h⟩ := Outcome.bind_eq_ok.mp h
        cases h
        exact ⟨Catalog.find?_update_of_ne apart.own hupdate,
          Catalog.find?_update_of_ne apart.rest hupdate⟩
    | deleteCharge key' =>
      cases about
      obtain ⟨⟨removed, c⟩, hdelete, h⟩ := Outcome.bind_eq_ok.mp h
      cases h
      exact ⟨Catalog.find?_delete_of_ne apart.own hdelete,
        Catalog.find?_delete_of_ne apart.rest hdelete⟩
  rw [Catalog.toOption_lookup, Catalog.toOption_lookup, same.1, same.2]

/-! ### Other owners -/

namespace SheetStore

variable {s s' : SheetStore} {owner other : Owner} {key : ChargeKey} {amount : Decimal}

theorem entryOf_congr (h : s'.read owner = s.read owner) :
    s'.entryOf owner key = s.entryOf owner key := by
  unfold entryOf
  rw [h]

theorem entryOf_of_read {sheet : Option Catalog} (h : s.read owner = .ok sheet) :
    s.entryOf owner key = .ok (sheet.bind fun c => (c.lookup key).toOption) := by
  unfold entryOf
  rw [h]
  cases sheet with
  | none => rfl
  | some c => rfl

/-- A sheet that was written is read back, where the owner's sheet can be read at all. -/
theorem read_of_write_own {sheet : Option Catalog} {c : Catalog}
    (readable : s.read owner = .ok sheet) (h : s.write owner c = .ok s') :
    s'.read owner = .ok (some c) := by
  unfold read at readable ⊢
  rw [(refusals_of_write h).1]
  by_cases refused : owner ∈ s.unreadable
  · rw [if_pos refused] at readable
    cases readable
  · rw [if_neg refused, get?_of_write h]

/-- No sheet has as many entries as an empty one. -/
theorem bind_lookup_getD (sheet : Option Catalog) (key : ChargeKey) :
    ((sheet.getD .empty).lookup key).toOption = sheet.bind fun c => (c.lookup key).toOption := by
  cases sheet with
  | none => rfl
  | some c => rfl

theorem entryOf_tryCall_of_ne {call : ManagerCall} (ne : other ≠ call.owner) :
    (s.tryCall call).2.entryOf other key = s.entryOf other key :=
  entryOf_congr (agreesAt_tryCall s ne).symm.read_eq

theorem entryOf_tryCall_of_apart {accepts : Validator} {change : SheetChange} {k : ChargeKey}
    (about : change.key? = some k) (apart : k.Apart key) :
    (s.tryCall (.changeSheet accepts owner change)).2.entryOf other key = s.entryOf other key := by
  by_cases ne : other = owner
  · subst ne
    rcases tryCall_store s (.changeSheet accepts other change) with
      same | ⟨sheet, answer, revised, hread, hrevise, hwrite⟩
    · rw [same]
    · have before : s.entryOf other key = _ := entryOf_of_read hread
      have after : (s.tryCall (.changeSheet accepts other change)).2.entryOf other key = _ :=
        entryOf_of_read (read_of_write_own hread hwrite)
      rw [before, after, ← bind_lookup_getD sheet,
        ← SheetChange.lookup_of_revise about apart hrevise]
      rfl
  · exact entryOf_tryCall_of_ne ne

/-- A chain of owners looks at the entries of its owners for the key. -/
theorem quote_congr {chain : List Owner}
    (h : ∀ owner ∈ chain, s'.entryOf owner key = s.entryOf owner key) :
    s'.quote key amount chain = s.quote key amount chain := by
  induction chain with
  | nil => rfl
  | cons owner rest ih =>
    obtain ⟨head, others⟩ := List.forall_mem_cons.mp h
    rw [quote, quote, head, ih others]

end SheetStore

/-! ### Other names -/

namespace Payments

variable {p : Payments} {transaction schoolId name : String} {key k : ChargeKey}

theorem orderAmount_setAmount_of_ne {other : String} (ne : other ≠ transaction) (amount : Decimal) :
    (p.setAmount other amount).orderAmount transaction = p.orderAmount transaction := by
  unfold orderAmount setAmount
  rw [Registry.get?_set, if_neg ne.symm]
  rfl

theorem appliedTier_setApplied_of_ne {other : String} (ne : other ≠ schoolId ∨ ¬ k.Respelled key)
    (tier : Tier) : (p.setApplied other k tier).appliedTier schoolId key =
      p.appliedTier schoolId key := by
  have distinct : (schoolId, key.folded) ≠ (other, k.folded) := by
    intro same
    obtain ⟨sameSchool, sameKey⟩ := Prod.mk.inj same
    rcases ne with ne | ne
    · exact ne sameSchool.symm
    · exact ne (ChargeKey.folded_eq_iff.mp sameKey.symm)
  unfold appliedTier setApplied
  rw [Registry.get?_set, if_neg distinct]
  rfl

theorem answer_failFor_of_ne {α : Type} {other : String} (ne : other ≠ name) (value : α) :
    (p.failFor other).answer name value = p.answer name value := by
  have same : name ∈ other :: p.failing ↔ name ∈ p.failing := by
    simp [ne.symm]
  unfold answer failFor
  simp only [same]

end Payments

/-! ### What a request is priced from -/

/-- The owners whose sheets can price a request. -/
def CommissionRequest.owners (request : CommissionRequest) (gatewayId : String) : List Owner :=
  [.gateway gatewayId, .schoolBase request.school.id, .trusteeBase request.school.trusteeId,
    .schoolFinal request.school.id]

namespace PricingState

variable {s s' : PricingState} {gatewayId : String} {request : CommissionRequest}

/-- What a cascade of these collaborators answers to a request. -/
def answer (s : PricingState) (config : Config) (request : CommissionRequest) :
    Except FeeError Commission := do
  let c ← Cascade.create config s.sheets s.payments
  c.compute request

/-- Two states are alike in everything that a request is priced from. -/
structure SeesAlike (gatewayId : String) (request : CommissionRequest) (s s' : PricingState) :
    Prop where
  entries : ∀ owner ∈ request.owners gatewayId,
    s'.sheets.entryOf owner request.key = s.sheets.entryOf owner request.key
  amount : s'.payments.orderAmount request.transaction =
    s.payments.orderAmount request.transaction
  applied : s'.payments.appliedTier request.school.id request.key =
    s.payments.appliedTier request.school.id request.key

theorem compute_congr {config : Config} (alike : SeesAlike config.gatewayId request s s') :
    (Cascade.mk config s'.sheets s'.payments).compute request =
      (Cascade.mk config s.sheets s.payments).compute request := by
  have chain : ∀ owners ⊆ request.owners config.gatewayId, ∀ amount,
      s'.sheets.quote request.key amount owners = s.sheets.quote request.key amount owners :=
    fun owners within amount => SheetStore.quote_congr fun owner h => alike.entries owner (within h)
  have gateway := chain [.gateway config.gatewayId] (by simp [CommissionRequest.owners])
  have base := chain (Cascade.baseChain request.school)
    (by simp [CommissionRequest.owners, Cascade.baseChain])
  have final := chain (Cascade.finalChain request.school)
    (by simp [CommissionRequest.owners, Cascade.finalChain])
  simp only [Cascade.compute, Cascade.orderAmount, Cascade.quotes, Cascade.appliedQuote,
    Cascade.gatewayChain, alike.amount, alike.applied, gateway, base, final]

/-- A request is answered alike where everything is alike that it is priced from. -/
theorem answer_congr {config : Config} (alike : SeesAlike config.gatewayId request s s') :
    s'.answer config request = s.answer config request := by
  unfold answer Cascade.create
  cases config.check with
  | error e => rfl
  | ok _ =>
    cases (Gst.checkRate config.gstRate).mapError FeeError.gst with
    | error e => rfl
    | ok _ => exact compute_congr alike

/-- Something happens that is none of the request's business. -/
inductive Unrelated (gatewayId : String) (request : CommissionRequest) :
    PricingState → PricingState → Prop
  /-- A manager is called about another owner, and the call succeeds or fails.  The owner may have
  an identifier of the request, as long as the sheet is of another kind. -/
  | otherOwner {s : PricingState} (call : ManagerCall)
      (other : call.owner ∉ request.owners gatewayId) :
      Unrelated gatewayId request s { s with sheets := (s.sheets.tryCall call).2 }
  /-- A manager is asked for a change under another key, on any owner's sheet. -/
  | otherKey {s : PricingState} (accepts : Validator) (owner : Owner) (change : SheetChange)
      (key : ChargeKey) (about : change.key? = some key) (apart : key.Apart request.key) :
      Unrelated gatewayId request s
        { s with sheets := (s.sheets.tryCall (.changeSheet accepts owner change)).2 }
  | otherTransaction {s : PricingState} (transaction : String) (amount : Decimal)
      (other : transaction ≠ request.transaction) :
      Unrelated gatewayId request s
        { s with payments := s.payments.setAmount transaction amount }
  | otherRate {s : PricingState} (schoolId : String) (key : ChargeKey) (tier : Tier)
      (other : schoolId ≠ request.school.id ∨ ¬ key.Respelled request.key) :
      Unrelated gatewayId request s
        { s with payments := s.payments.setApplied schoolId key tier }
  | otherName {s : PricingState} (name : String) (transaction : name ≠ request.transaction)
      (school : name ≠ request.school.id) :
      Unrelated gatewayId request s { s with payments := s.payments.failFor name }

/-- Whatever is none of a request's business leaves alone what the request is priced from. -/
theorem seesAlike_of_unrelated (h : Unrelated gatewayId request s s') :
    SeesAlike gatewayId request s s' := by
  cases h with
  | otherOwner call other =>
    refine ⟨fun owner howner => ?_, rfl, rfl⟩
    exact SheetStore.entryOf_tryCall_of_ne fun same => other (same ▸ howner)
  | otherKey accepts owner change key about apart =>
    exact ⟨fun _ _ => SheetStore.entryOf_tryCall_of_apart about apart, rfl, rfl⟩
  | otherTransaction transaction amount other =>
    exact ⟨fun _ _ => rfl, Payments.orderAmount_setAmount_of_ne other amount, rfl⟩
  | otherRate schoolId key tier other =>
    exact ⟨fun _ _ => rfl, rfl, Payments.appliedTier_setApplied_of_ne other tier⟩
  | otherName name transaction school =>
    exact ⟨fun _ _ => rfl, Payments.answer_failFor_of_ne transaction _,
      Payments.answer_failFor_of_ne school _⟩

/--
**Prices are isolated.**  In whatever state, a request is answered with the same commission
or the same error after anything that concerns another owner, another key, another
transaction or another school, and so after any number of such things.
-/
theorem answer_of_unrelated (config : Config) (request : CommissionRequest) (s s' : PricingState)
    (happened : Relation.ReflTransGen (Unrelated config.gatewayId request) s s') :
    s'.answer config request = s.answer config request := by
  induction happened with
  | refl => rfl
  | tail _ step ih => exact (answer_congr (seesAlike_of_unrelated step)).trans ih

/-- A corporate payment, which has the charge of the remaining modes of its platform. -/
def corporatePayment : CommissionRequest := ⟨⟨"s1", "t1"⟩, "x1", ⟨"UPI", "Corporate"⟩⟩

/-- The school's base sheet comes into being under another key and is emptied again, the gateway's
identifier gets the sheet of a school, and the backend refuses to answer about the trustee. -/
def busyNeighbours (s : PricingState) : PricingState :=
  let added := (s.sheets.tryCall
    (.changeSheet .standard (.schoolBase "s1") (.addCharge (.zeroRated ⟨"UPI", "Card"⟩)))).2
  let emptied := (added.tryCall
    (.changeSheet .standard (.schoolBase "s1") (.deleteCharge ⟨"upi", "CARD"⟩))).2
  ⟨(emptied.tryCall (.changeSheet .standard (.schoolFinal "pg") .ensureDefaults)).2,
    s.payments.failFor "t1"⟩

/-- The payment is priced as before, though its school has an empty base sheet now. -/
theorem answer_of_unrelated_busyNeighbours :
    Relation.ReflTransGen (Unrelated "pg" corporatePayment) Cascade.standardSheets
        Cascade.standardSheets.busyNeighbours ∧
      Cascade.standardSheets.busyNeighbours.sheets.sheets.get? (.schoolBase "s1") = some .empty ∧
      Cascade.standardSheets.busyNeighbours.answer ⟨"pg", 0, 1, ⟨1⟩, 0⟩ corporatePayment =
        Cascade.standardSheets.answer ⟨"pg", 0, 1, ⟨1⟩, 0⟩ corporatePayment ∧
      (Cascade.standardSheets.answer ⟨"pg", 0, 1, ⟨1⟩, 0⟩ corporatePayment).toOption.isSome := by
  have card : ChargeKey.Apart ⟨"UPI", "Card"⟩ corporatePayment.key :=
    .of_folded (by decide +kernel) (by decide +kernel)
  have respelled : ChargeKey.Apart ⟨"upi", "CARD"⟩ corporatePayment.key :=
    .of_folded (by decide +kernel) (by decide +kernel)
  have happened : Relation.ReflTransGen (Unrelated "pg" corporatePayment) Cascade.standardSheets
      Cascade.standardSheets.busyNeighbours := by
    have added : Relation.ReflTransGen (Unrelated "pg" corporatePayment) Cascade.standardSheets _ :=
      .single (.otherKey .standard (.schoolBase "s1") (.addCharge (.zeroRated ⟨"UPI", "Card"⟩)) _
        rfl card)
    have emptied := added.tail
      (.otherKey .standard (.schoolBase "s1") (.deleteCharge ⟨"upi", "CARD"⟩) _ rfl respelled)
    have seeded := emptied.tail
      (.otherOwner (.changeSheet .standard (.schoolFinal "pg") .ensureDefaults) (by decide))
    exact seeded.tail (.otherName "t1" (by decide) (by decide))
  exact ⟨happened, by decide +kernel,
    answer_of_unrelated ⟨"pg", 0, 1, ⟨1⟩, 0⟩ corporatePayment _ _ happened, by decide +kernel⟩

end PricingState

end SchoolFees

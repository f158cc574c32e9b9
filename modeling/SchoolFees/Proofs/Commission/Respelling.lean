/-
Prices do not depend on spelling.

Keys are told apart in two places, and in two ways: a sheet compares keys during a scan,
and the payments backend registers a rate under the key in lower case.  Both go by the
case of ASCII letters and by nothing else, so they agree on what is one key.

Two histories that differ in the spelling of keys are followed side by side.  After every
event the stores of sheets are respellings of one another, and the backends are the same,
since they have folded the keys already (`PricingState.Respelled`).  Each event preserves
this and ends alike on both sides (`after_alike`), and in such a pair of states a request
is answered alike under any two spellings of its key (`answer_alike`).

A validator that comes with the library cannot tell two spellings apart.  One that a
caller supplies may, so under such a validator both histories have to have the same
spelling.
-/
import SchoolFees.Proofs.Commission.Isolation
import SchoolFees.Proofs.Pricing.Respelling
import SchoolFees.Proofs.Sheets.Writers

namespace SchoolFees

open Outcome (Alike)

/-! ### Sheets up to spelling -/

namespace SheetStore

/-- The same owners have sheets, which are respellings of one another. -/
structure Respelled (s s' : SheetStore) : Prop where
  unreadable : s.unreadable = s'.unreadable
  unwritable : s.unwritable = s'.unwritable
  sheets : ∀ owner,
    (s.sheets.get? owner).map Catalog.folded = (s'.sheets.get? owner).map Catalog.folded

variable {s s' : SheetStore} {key key' : ChargeKey}

theorem Respelled.refl (s : SheetStore) : s.Respelled s := ⟨rfl, rfl, fun _ => rfl⟩

theorem read_alike (h : s.Respelled s') (owner : Owner) :
    Alike (fun sheet sheet' => sheet.map Catalog.folded = sheet'.map Catalog.folded)
      (s.read owner) (s'.read owner) := by
  unfold read
  rw [h.unreadable]
  by_cases refused : owner ∈ s'.unreadable
  · rw [if_pos refused, if_pos refused]
    exact .error rfl
  · rw [if_neg refused, if_neg refused]
    exact .ok (h.sheets owner)

theorem write_alike (h : s.Respelled s') (owner : Owner) {c c' : Catalog} (sheet : c.Respelled c') :
    Alike Respelled (s.write owner c) (s'.write owner c') := by
  unfold write
  rw [h.unwritable]
  by_cases refused : owner ∈ s'.unwritable
  · rw [if_pos refused, if_pos refused]
    exact .error rfl
  · rw [if_neg refused, if_neg refused]
    refine .ok ⟨h.unreadable, rfl, fun other => ?_⟩
    show ((s.sheets.set owner c).get? other).map Catalog.folded =
      ((s'.sheets.set owner c').get? other).map Catalog.folded
    rw [Registry.get?_set, Registry.get?_set]
    by_cases own : other = owner
    · rw [if_pos own, if_pos own]
      exact congrArg some sheet
    · rw [if_neg own, if_neg own]
      exact h.sheets other

theorem entryOf_alike (h : s.Respelled s') (owner : Owner) (keys : key.folded = key'.folded) :
    Alike (fun entry entry' => entry.map Entry.folded = entry'.map Entry.folded)
      (s.entryOf owner key) (s'.entryOf owner key') := by
  refine (read_alike h owner).bind fun sheet sheet' same => ?_
  cases sheet with
  | none =>
    rw [Option.map_eq_none_iff.mp same.symm]
    exact .ok rfl
  | some c =>
    obtain ⟨c', rfl, respelled⟩ := Option.map_eq_some_iff.mp same.symm
    exact .ok (Catalog.lookup_alike respelled.symm keys).map_toOption

/-- A chain of owners has the same price under any spelling of the key. -/
theorem quote_alike (h : s.Respelled s') (keys : key.folded = key'.folded) (amount : Decimal)
    (chain : List Owner) : Alike Eq (s.quote key amount chain) (s'.quote key' amount chain) := by
  induction chain with
  | nil => exact .error (congrArg FeeError.noChargeConfigured keys)
  | cons owner rest ih =>
    unfold quote
    refine (entryOf_alike h owner keys).bind fun entry entry' same => ?_
    cases entry with
    | none =>
      rw [Option.map_eq_none_iff.mp same.symm]
      exact ih
    | some e =>
      obtain ⟨e', rfl, respelled⟩ := Option.map_eq_some_iff.mp same.symm
      have tiers : e'.tiers = e.tiers := (Entry.folded_eq_iff.mp respelled).2
      dsimp only
      rw [tiers]
      exact .refl (fun _ => rfl) _

end SheetStore

/-! ### Changes up to spelling -/

/-- One change is the other with its key spelled otherwise. -/
inductive SheetChange.Respelled : SheetChange → SheetChange → Prop
  | addCharge {key key' : ChargeKey} (h : key.Respelled key') (tiers : TierTable) :
      Respelled (.addCharge ⟨key, tiers⟩) (.addCharge ⟨key', tiers⟩)
  | updateCharge {key key' : ChargeKey} (h : key.Respelled key') (tiers : TierTable) :
      Respelled (.updateCharge ⟨key, tiers⟩) (.updateCharge ⟨key', tiers⟩)
  | deleteCharge {key key' : ChargeKey} (h : key.Respelled key') :
      Respelled (.deleteCharge key) (.deleteCharge key')

/-- Two changes with respelled keys that their validator does not tell apart. -/
inductive SheetChange.Indistinct (accepts : Validator) : SheetChange → SheetChange → Prop
  | ensureDefaults : Indistinct accepts .ensureDefaults .ensureDefaults
  | addCharge {e e' : Entry} (entries : e.folded = e'.folded)
      (taken : Alike Eq (accepts e) (accepts e')) :
      Indistinct accepts (.addCharge e) (.addCharge e')
  | updateCharge {e e' : Entry} (entries : e.folded = e'.folded)
      (taken : Alike Eq (accepts e) (accepts e')) :
      Indistinct accepts (.updateCharge e) (.updateCharge e')
  | deleteCharge {key key' : ChargeKey} (keys : key.folded = key'.folded) :
      Indistinct accepts (.deleteCharge key) (.deleteCharge key')

theorem Entry.folded_mk_congr {key key' : ChargeKey} (h : key.Respelled key') (tiers : TierTable) :
    (Entry.mk key tiers).folded = (Entry.mk key' tiers).folded :=
  folded_eq_iff.mpr ⟨ChargeKey.folded_eq_iff.mpr h, rfl⟩

theorem Validator.Supplied.alike {accepts : Validator} (supplied : accepts.Supplied) {e e' : Entry}
    (h : e.folded = e'.folded) : Alike Eq (accepts e) (accepts e') := by
  rcases supplied with rfl | rfl
  · exact standard_alike h
  · exact strict_alike h

namespace SheetChange

variable {accepts : Validator} {change change' : SheetChange}

theorem indistinct_refl (accepts : Validator) (change : SheetChange) :
    Indistinct accepts change change := by
  cases change with
  | ensureDefaults => exact .ensureDefaults
  | addCharge entry => exact .addCharge rfl (.refl (fun _ => rfl) _)
  | updateCharge entry => exact .updateCharge rfl (.refl (fun _ => rfl) _)
  | deleteCharge key => exact .deleteCharge rfl

/-- No validator of the library tells two spellings apart. -/
theorem Respelled.indistinct (h : change.Respelled change') (supplied : accepts.Supplied) :
    Indistinct accepts change change' := by
  cases h with
  | addCharge keys tiers =>
    have entries := Entry.folded_mk_congr keys tiers
    exact .addCharge entries (supplied.alike entries)
  | updateCharge keys tiers =>
    have entries := Entry.folded_mk_congr keys tiers
    exact .updateCharge entries (supplied.alike entries)
  | deleteCharge keys => exact .deleteCharge (ChargeKey.folded_eq_iff.mpr keys)

theorem screen_alike (h : Indistinct accepts change change') :
    Alike Eq (change.screen accepts) (change'.screen accepts) := by
  cases h with
  | ensureDefaults => exact .ok rfl
  | addCharge entries taken => exact .ok rfl
  | updateCharge entries taken => exact taken
  | deleteCharge keys => exact .ok rfl

/-- A missing sheet counts as an empty one on both sides. -/
theorem getD_respelled {sheet sheet' : Option Catalog}
    (h : sheet.map Catalog.folded = sheet'.map Catalog.folded) :
    (sheet.getD .empty).Respelled (sheet'.getD .empty) := by
  cases sheet with
  | none =>
    rw [Option.map_eq_none_iff.mp h.symm]
    rfl
  | some c =>
    obtain ⟨c', rfl, respelled⟩ := Option.map_eq_some_iff.mp h.symm
    exact respelled.symm

/-- Both revisions write a sheet, and the one is a respelling of the other, or neither does. -/
def WritesAlike (r r' : Revision) : Prop :=
  r.sheet.map Catalog.folded = r'.sheet.map Catalog.folded

theorem revise_alike (h : Indistinct accepts change change') (owner : Owner)
    {sheet sheet' : Option Catalog}
    (sheets : sheet.map Catalog.folded = sheet'.map Catalog.folded) :
    Alike WritesAlike (change.revise accepts owner sheet)
      (change'.revise accepts owner sheet') := by
  have present := getD_respelled sheets
  cases h with
  | ensureDefaults =>
    cases sheet with
    | none =>
      rw [Option.map_eq_none_iff.mp sheets.symm]
      exact .ok rfl
    | some c =>
      obtain ⟨c', rfl, -⟩ := Option.map_eq_some_iff.mp sheets.symm
      exact .ok rfl
  | addCharge entries taken =>
    exact (Catalog.add_alike present entries taken).bind fun _ _ revised =>
      .ok (congrArg some revised)
  | updateCharge entries taken =>
    cases sheet with
    | none =>
      rw [Option.map_eq_none_iff.mp sheets.symm]
      exact .error rfl
    | some c =>
      obtain ⟨c', rfl, -⟩ := Option.map_eq_some_iff.mp sheets.symm
      exact (Catalog.update_alike present entries).bind fun _ _ revised =>
        .ok (congrArg some revised)
  | deleteCharge keys =>
    exact (Catalog.delete_alike present keys).bind fun _ _ removed =>
      .ok (congrArg some removed.2)

end SheetChange

theorem SheetStore.change_alike {s s' : SheetStore} (h : s.Respelled s') {accepts : Validator}
    {change change' : SheetChange} (changes : SheetChange.Indistinct accepts change change')
    (owner : Owner) :
    Alike (fun p p' => p.2.Respelled p'.2) (s.change accepts owner change)
      (s'.change accepts owner change') := by
  have prepared : Alike (fun p p' => p.owner = owner ∧ p'.owner = owner ∧
      SheetChange.WritesAlike p.revision p'.revision)
      (s.prepare accepts owner change) (s'.prepare accepts owner change') := by
    refine (SheetChange.screen_alike changes).bind fun _ _ _ => ?_
    refine (read_alike h owner).bind fun _ _ sheets => ?_
    refine (SheetChange.revise_alike changes owner sheets).bind fun _ _ revised => ?_
    exact .ok ⟨rfl, rfl, revised⟩
  refine prepared.bind fun p p' pending => ?_
  obtain ⟨howner, howner', writes⟩ := pending
  have committed : Alike Respelled (s.commit p) (s'.commit p') := by
    unfold commit
    rw [howner, howner']
    cases written : p.revision.sheet with
    | none =>
      rw [SheetChange.WritesAlike, written] at writes
      rw [Option.map_eq_none_iff.mp writes.symm]
      exact .ok h
    | some c =>
      rw [SheetChange.WritesAlike, written] at writes
      obtain ⟨c', written', respelled⟩ := Option.map_eq_some_iff.mp writes.symm
      rw [written']
      exact write_alike h owner respelled.symm
  exact committed.bind fun _ _ stores => .ok stores

/-! ### Histories up to spelling -/

/-- One event is the other with its key spelled otherwise, or the two are the same. -/
inductive PricingEvent.Respelled : PricingEvent → PricingEvent → Prop
  | same (event : PricingEvent) : Respelled event event
  | changeSheet {accepts : Validator} (supplied : accepts.Supplied) (owner : Owner)
      {change change' : SheetChange} (h : change.Respelled change') :
      Respelled (.changeSheet accepts owner change) (.changeSheet accepts owner change')
  | setApplied (schoolId : String) {key key' : ChargeKey} (h : key.Respelled key') (tier : Tier) :
      Respelled (.setApplied schoolId key tier) (.setApplied schoolId key' tier)

/-- The same payment, under a key that may be spelled otherwise. -/
structure CommissionRequest.Respelled (r r' : CommissionRequest) : Prop where
  school : r.school = r'.school
  transaction : r.transaction = r'.transaction
  key : r.key.Respelled r'.key

/-- A rate that is registered under a key is registered under every spelling of it. -/
theorem Payments.setApplied_congr (p : Payments) (schoolId : String) {key key' : ChargeKey}
    (h : key.Respelled key') (tier : Tier) :
    p.setApplied schoolId key tier = p.setApplied schoolId key' tier := by
  unfold setApplied
  rw [ChargeKey.folded_eq_iff.mpr h]

namespace PricingState

/-- Respelled sheets beside the same backend. -/
structure Respelled (s s' : PricingState) : Prop where
  sheets : s.sheets.Respelled s'.sheets
  payments : s.payments = s'.payments

variable {s s' : PricingState}

theorem Respelled.refl (s : PricingState) : s.Respelled s := ⟨.refl s.sheets, rfl⟩

/-- Respelled events end alike. -/
theorem after_alike (h : s.Respelled s') {event event' : PricingEvent}
    (events : event.Respelled event') : Alike Respelled (s.after event) (s'.after event') := by
  cases events with
  | changeSheet supplied owner changes =>
    have changed := SheetStore.change_alike h.sheets (changes.indistinct supplied) owner
    refine changed.bind fun _ _ sheets => ?_
    exact .ok ⟨sheets, h.payments⟩
  | setApplied schoolId keys tier =>
    refine .ok ⟨h.sheets, ?_⟩
    show s.payments.setApplied _ _ _ = s'.payments.setApplied _ _ _
    rw [h.payments, Payments.setApplied_congr _ schoolId keys]
  | same =>
    cases event with
    | putSheet owner sheet =>
      exact (SheetStore.write_alike h.sheets owner rfl).bind fun _ _ sheets =>
        .ok ⟨sheets, h.payments⟩
    | changeSheet accepts owner change =>
      have changes := SheetChange.indistinct_refl accepts change
      refine (SheetStore.change_alike h.sheets changes owner).bind fun _ _ sheets => ?_
      exact .ok ⟨sheets, h.payments⟩
    | clearSheets =>
      exact .ok ⟨⟨h.sheets.unreadable, h.sheets.unwritable, fun _ => rfl⟩, h.payments⟩
    | setAmount transaction amount =>
      exact .ok ⟨h.sheets, congrArg (·.setAmount transaction amount) h.payments⟩
    | setApplied schoolId key tier =>
      exact .ok ⟨h.sheets, congrArg (·.setApplied schoolId key tier) h.payments⟩
    | setSettled priceKey date count =>
      exact .ok ⟨h.sheets, congrArg (·.setSettled priceKey date count) h.payments⟩
    | failFor name => exact .ok ⟨h.sheets, congrArg (·.failFor name) h.payments⟩

/-- Tells the collaborators something, which leaves them as they were if it fails. -/
def tell (s : PricingState) (event : PricingEvent) : Except FeeError Unit × PricingState :=
  match s.after event with
  | .ok s' => (.ok (), s')
  | .error e => (.error e, s)

/-- Tells one thing after another: how each of them ends, and the collaborators after it all. -/
def tellAll (s : PricingState) : List PricingEvent → List (Except FeeError Unit) × PricingState
  | [] => ([], s)
  | event :: rest =>
    let first := s.tell event
    let others := first.2.tellAll rest
    (first.1 :: others.1, others.2)

theorem tell_alike (h : s.Respelled s') {event event' : PricingEvent}
    (events : event.Respelled event') :
    Alike Eq (s.tell event).1 (s'.tell event').1 ∧
      (s.tell event).2.Respelled (s'.tell event').2 := by
  have ended := after_alike h events
  unfold tell
  generalize s.after event = ending at ended
  generalize s'.after event' = ending' at ended
  cases ended with
  | ok states => exact ⟨.ok rfl, states⟩
  | error errors => exact ⟨.error errors, h⟩

theorem tellAll_alike (h : s.Respelled s') {history history' : List PricingEvent}
    (events : List.Forall₂ PricingEvent.Respelled history history') :
    List.Forall₂ (Alike Eq) (s.tellAll history).1 (s'.tellAll history').1 ∧
      (s.tellAll history).2.Respelled (s'.tellAll history').2 := by
  induction events generalizing s s' with
  | nil => exact ⟨.nil, h⟩
  | cons event _ ih =>
    obtain ⟨ending, states⟩ := tell_alike h event
    obtain ⟨endings, last⟩ := ih states
    exact ⟨.cons ending endings, last⟩

/-! ### Requests up to spelling -/

variable {r r' : CommissionRequest}

theorem appliedQuote_alike (config : Config) (h : s.Respelled s') (requests : r.Respelled r')
    (amount : Decimal) :
    Alike Eq ((Cascade.mk config s.sheets s.payments).appliedQuote r.school r.key amount)
      ((Cascade.mk config s'.sheets s'.payments).appliedQuote r'.school r'.key amount) := by
  have keys := ChargeKey.folded_eq_iff.mpr requests.key
  have tier : s.payments.appliedTier r.school.id r.key =
      s'.payments.appliedTier r'.school.id r'.key := by
    unfold Payments.appliedTier
    rw [h.payments, requests.school, keys]
  unfold Cascade.appliedQuote
  dsimp only
  rw [tier, requests.school]
  split
  · exact .ok rfl
  · exact SheetStore.quote_alike h.sheets keys amount _

theorem quotes_alike (config : Config) (h : s.Respelled s') (requests : r.Respelled r')
    (amount : Decimal) :
    Alike Eq ((Cascade.mk config s.sheets s.payments).quotes r.school r.key amount)
      ((Cascade.mk config s'.sheets s'.payments).quotes r'.school r'.key amount) := by
  have chain := SheetStore.quote_alike h.sheets (ChargeKey.folded_eq_iff.mpr requests.key) amount
  have applied := appliedQuote_alike config h requests amount
  rw [requests.school] at applied ⊢
  refine ((chain _).inLayer .gatewayBuying).bind fun _ _ gateway => ?_
  refine ((chain _).inLayer .schoolBase).bind fun _ _ base => ?_
  refine ((chain _).inLayer .schoolFinal).bind fun _ _ final => ?_
  refine (applied.inLayer .applied).bind fun _ _ applied => ?_
  rw [gateway, base, final, applied]
  exact .ok rfl

theorem answer_alike (h : s.Respelled s') (config : Config) (requests : r.Respelled r') :
    Alike Eq (s.answer config r) (s'.answer config r') := by
  unfold answer Cascade.create
  cases config.check with
  | error e => exact .error rfl
  | ok _ =>
    cases (Gst.checkRate config.gstRate).mapError FeeError.gst with
    | error e => exact .error rfl
    | ok _ =>
      have amount : (Cascade.mk config s.sheets s.payments).orderAmount r.transaction =
          (Cascade.mk config s'.sheets s'.payments).orderAmount r'.transaction := by
        unfold Cascade.orderAmount
        rw [h.payments, requests.transaction]
      show Alike Eq ((Cascade.mk config s.sheets s.payments).compute r)
        ((Cascade.mk config s'.sheets s'.payments).compute r')
      unfold Cascade.compute
      rw [amount, requests.transaction]
      refine (Alike.refl (fun _ => rfl) _).bind fun a b same => ?_
      rw [same]
      refine (quotes_alike config h requests b).bind fun _ _ quotes => ?_
      rw [quotes]
      exact .ok rfl

/--
**The spelling of a key is of no account.**  Spell the keys of a history otherwise, those of
changes under the validators of the library and those of applied rates.  The same events
succeed as before, and whatever is asked for afterwards, under whatever spelling of its
key, has the same commission, or fails for the same reason up to the spelling of the keys
in it.  What counts as a spelling of a key is the same for sheets and for applied rates.
-/
theorem answer_of_respelled (s : PricingState) (history history' : List PricingEvent)
    (events : List.Forall₂ PricingEvent.Respelled history history') :
    List.Forall₂ (Alike Eq) (s.tellAll history).1 (s.tellAll history').1 ∧
      (∀ config r r', CommissionRequest.Respelled r r' →
        Alike Eq ((s.tellAll history).2.answer config r)
          ((s.tellAll history').2.answer config r')) ∧
      ∀ key key' : ChargeKey,
        (key.same key' = true ↔ key.Respelled key') ∧
        ∀ (p : Payments) (schoolId : String) (tier : Tier),
          (key.Respelled key' →
            (p.setApplied schoolId key tier).appliedTier schoolId key' =
              p.answer schoolId (some tier)) ∧
          (¬ key.Respelled key' →
            (p.setApplied schoolId key tier).appliedTier schoolId key' =
              p.appliedTier schoolId key') := by
  obtain ⟨endings, states⟩ := tellAll_alike (.refl s) events
  refine ⟨endings, fun config r r' requests => answer_alike states config requests,
    fun key key' => ⟨ChargeKey.same_iff.trans ChargeKey.folded_eq_iff, ?_⟩⟩
  refine fun p schoolId tier => ⟨?_, ?_⟩
  · intro respelled
    have registered : (p.setApplied schoolId key tier).applied.get? (schoolId, key'.folded) =
        some tier := by
      unfold Payments.setApplied
      rw [Registry.get?_set, if_pos (by rw [ChargeKey.folded_eq_iff.mpr respelled])]
    unfold Payments.appliedTier
    rw [registered]
    rfl
  · intro other
    exact Payments.appliedTier_setApplied_of_ne (.inr other) tier

/-- The school gets a base rate for corporate payments, asks for it a second time, and is told the
rate that was applied. -/
def corporateHistory (first second applied : ChargeKey) : List PricingEvent :=
  [.changeSheet .strict (.schoolBase "s1") (.addCharge (.zeroRated first)),
    .changeSheet .standard (.schoolBase "s1") (.addCharge (.zeroRated second)),
    .setApplied "s1" applied ⟨none, .percent, ⟨15, 1⟩⟩]

/-- However the keys are spelled, the second charge is refused and the payment has its price. -/
theorem answer_of_respelled_corporateHistory :
    ∃ history history' commission,
      List.Forall₂ PricingEvent.Respelled history history' ∧
      ((Cascade.standardSheets.tellAll history).1.map (·.toOption.isSome) = [true, false, true]) ∧
      List.Forall₂ (Alike Eq) (Cascade.standardSheets.tellAll history).1
        (Cascade.standardSheets.tellAll history').1 ∧
      (Cascade.standardSheets.tellAll history).2.answer ⟨"pg", 0, 1, ⟨1⟩, 0⟩ corporatePayment =
        .ok commission ∧
      (Cascade.standardSheets.tellAll history').2.answer ⟨"pg", 0, 1, ⟨1⟩, 0⟩
        { corporatePayment with key := ⟨"uPi", "CORPORATE"⟩ } = .ok commission := by
  have keys : ∀ k ∈ [ChargeKey.mk "UPI" "CORPORATE", ⟨"upi", "corporatE"⟩, ⟨"uPi", "CORPORATE"⟩],
      ChargeKey.Respelled ⟨"UPI", "Corporate"⟩ k := by
    simp only [← ChargeKey.folded_eq_iff]
    decide +kernel
  have events : List.Forall₂ PricingEvent.Respelled
      (corporateHistory ⟨"UPI", "Corporate"⟩ ⟨"UPI", "Corporate"⟩ ⟨"UPI", "Corporate"⟩)
      (corporateHistory ⟨"UPI", "CORPORATE"⟩ ⟨"upi", "corporatE"⟩ ⟨"uPi", "CORPORATE"⟩) :=
    .cons (.changeSheet (.inr rfl) _ (.addCharge (keys _ (by decide)) _)) <|
      .cons (.changeSheet (.inl rfl) _ (.addCharge (keys _ (by decide)) _)) <|
        .cons (.setApplied _ (keys _ (by decide)) _) .nil
  obtain ⟨endings, answers, -⟩ := answer_of_respelled Cascade.standardSheets _ _ events
  have priced : ((Cascade.standardSheets.tellAll (corporateHistory ⟨"UPI", "Corporate"⟩
      ⟨"UPI", "Corporate"⟩ ⟨"UPI", "Corporate"⟩)).2.answer ⟨"pg", 0, 1, ⟨1⟩, 0⟩
        corporatePayment).toOption.isSome := by
    decide +kernel
  obtain ⟨commission, priced⟩ := Option.isSome_iff_exists.mp priced
  have alike := answers ⟨"pg", 0, 1, ⟨1⟩, 0⟩ corporatePayment
    { corporatePayment with key := ⟨"uPi", "CORPORATE"⟩ } ⟨rfl, rfl, keys _ (by decide)⟩
  rw [Outcome.toOption_eq_some_iff.mp priced] at alike
  refine ⟨_, _, commission, events, by decide +kernel, endings,
    Outcome.toOption_eq_some_iff.mp priced, alike.eq_ok⟩

end PricingState

end SchoolFees

/-
Catalogs that travel.

A catalog is written as the bare list of its entries, and what is read is built up entry
by entry under the standard validator.  Its keys are unique, so no entry can find its key
taken, and all that can go wrong is that an entry does not pass: one that a laxer
validator has let in, since every other writer is as strict.  Reading a catalog therefore
is checking its entries again (`ofDocument_toDocument_eq`).

What is read has the same entries in the same order under the same spellings.  Amounts may
come back with other scales, and are worth the same.  The check does not look at amounts
at all, so an entry passes it after the journey if it did before.
-/
import SchoolFees.Document.Rates
import SchoolFees.Proofs.Decimal.RoundTrip
import SchoolFees.Proofs.Pricing.CatalogKeys
import SchoolFees.Proofs.Pricing.Scales

namespace SchoolFees

/-! ### What can be written -/

/-- The amounts of a tier. -/
def Tier.amounts (t : Tier) : List Decimal := t.bound.toList ++ [t.charge]

/-- The scales of all amounts fit the machine word that a scale is kept in, as those of every amount
that was read do. -/
def Catalog.InRange (c : Catalog) : Prop :=
  ∀ e ∈ c.entries, ∀ t ∈ e.tiers, ∀ amount ∈ t.amounts, Decimal.ScaleInRange amount.scale

instance (c : Catalog) : Decidable c.InRange := inferInstanceAs (Decidable (∀ e ∈ c.entries, _))

/-! ### What is read -/

def Tier.rewritten (t : Tier) : Tier := ⟨t.bound.map Decimal.rewritten, t.kind, t.charge.rewritten⟩

def Entry.rewritten (e : Entry) : Entry := ⟨e.key, e.tiers.map Tier.rewritten⟩

def Catalog.rewritten (c : Catalog) : Catalog := ⟨c.entries.map Entry.rewritten⟩

theorem Tier.rewritten_equal (t : Tier) : t.rewritten.Equal t := by
  refine ⟨?_, rfl, t.charge.rewritten_equiv⟩
  show Option.Rel _ (t.bound.map Decimal.rewritten) t.bound
  cases t.bound with
  | none => exact .none
  | some bound => exact .some bound.rewritten_equiv

theorem Entry.rewritten_equal (e : Entry) : e.rewritten.Equal e :=
  ⟨rfl, List.forall₂_map_left_iff.mpr (List.forall₂_same.mpr fun t _ => t.rewritten_equal)⟩

theorem Catalog.rewritten_equal (c : Catalog) : c.rewritten.Equal c :=
  List.forall₂_map_left_iff.mpr (List.forall₂_same.mpr fun e _ => e.rewritten_equal)

namespace Document

theorem decode_decimal (d : Decimal) (inRange : Decimal.ScaleInRange d.scale) :
    decode? (encode d) = some d.rewritten := Decimal.ofText?_toText d inRange

theorem decode_kind (kind : ChargeKind) : decode? (encode kind) = some kind := by
  cases kind with
  | flat => rfl
  | percent => rfl

/-- A list is read item by item. -/
theorem decode_list {α : Type} [Wire α] {read : α → α} {items : List α}
    (h : ∀ a ∈ items, decode? (encode a) = some (read a)) :
    decode? (encode items) = some (items.map read) := by
  show (items.map encode).mapM decode? = some (items.map read)
  induction items with
  | nil => rfl
  | cons a rest ih =>
    obtain ⟨head, others⟩ := List.forall_mem_cons.mp h
    rw [List.map_cons, List.mapM_cons, head, ih others]
    rfl

theorem decode_tier (t : Tier) (inRange : ∀ amount ∈ t.amounts, Decimal.ScaleInRange amount.scale) :
    decode? (encode t) = some t.rewritten := by
  let fields : Fields := ⟨fun name => List.lookup name
    [("upto", encode t.bound), ("charge_type", encode t.kind), ("charge", encode t.charge)]⟩
  have bound : (fields.optional "upto" : Option (Option Decimal)) =
      some (t.bound.map Decimal.rewritten) := by
    show Fields.optionalBy _ _ _ = _
    unfold Fields.optionalBy
    have found : fields.lookup "upto" = some (encode t.bound) := rfl
    rw [found]
    cases limit : t.bound with
    | none => rfl
    | some bound =>
      have read := decode_decimal bound (inRange bound (by simp [Tier.amounts, limit]))
      show (decode? (encode bound)).map some = _
      rw [read]
      rfl
  have kind : (fields.required "charge_type" : Option ChargeKind) = some t.kind :=
    decode_kind t.kind
  have charge : (fields.required "charge" : Option Decimal) = some t.charge.rewritten :=
    decode_decimal t.charge (inRange t.charge (by simp [Tier.amounts]))
  -- What the reader does, with the fields of the record that was written.
  show (do
    let bound ← fields.optional "upto"
    let kind ← fields.required "charge_type"
    let charge ← fields.required "charge"
    return Tier.mk bound kind charge) = some t.rewritten
  rw [bound, kind, charge]
  rfl

theorem decode_entry (e : Entry)
    (inRange : ∀ t ∈ e.tiers, ∀ amount ∈ t.amounts, Decimal.ScaleInRange amount.scale) :
    decode? (encode e) = some e.rewritten := by
  let fields : Fields := ⟨fun name => List.lookup name
    [("platform_type", encode e.key.platform), ("payment_mode", encode e.key.mode),
      ("range_charge", encode (e.tiers : List Tier))]⟩
  have tiers : (fields.required "range_charge" : Option (List Tier)) =
      some (e.tiers.map Tier.rewritten) :=
    decode_list fun t ht => decode_tier t (inRange t ht)
  show (do
    let platform ← fields.required "platform_type"
    let mode ← fields.required "payment_mode"
    let tiers ← (fields.required "range_charge" : Option (List Tier))
    return Entry.mk ⟨platform, mode⟩ tiers) = some e.rewritten
  rw [tiers]
  rfl

end Document

/-! ### Checking entries again -/

/-- The standard check does not look at amounts. -/
theorem Validator.standard_rewritten (e : Entry) : standard e.rewritten = standard e :=
  standard_of_equal e.rewritten_equal

/-- What the standard check has against an entry is something about the entry. -/
theorem Validator.standard_error {e : Entry} {reason : FeeError}
    (h : standard e = .error reason) : ∃ violation, reason = .validation violation := by
  simp only [standard, TierTable.check, Outcome.bind_eq_error, require_eq_error] at h
  rcases h with ⟨-, rfl⟩ | ⟨_, -, ⟨-, rfl⟩ | ⟨_, -, ⟨-, rfl⟩ | ⟨_, -, -, rfl⟩⟩⟩
  · exact ⟨.blankPlatform, rfl⟩
  · exact ⟨.blankMode, rfl⟩
  · exact ⟨.emptyTable, rfl⟩
  · exact ⟨.catchAllCount e.tiers.catchAllCount, rfl⟩

namespace Catalog

variable {c : Catalog} {entries : List Entry} {accepts : Validator}

/-- Entries whose keys are new are taken in if they pass. -/
theorem addAll_of_nodup (unique : (c.keys ++ entries.map (·.key.folded)).Nodup) :
    c.addAll accepts entries = (entries.forM accepts).map fun _ => ⟨c.entries ++ entries⟩ := by
  -- The keys taken so far are distinct from those to come, all the way.
  induction entries generalizing c with
  | nil =>
    rw [List.append_nil]
    rfl
  | cons e rest ih =>
    have fresh : c.find? e.key = none := by
      rw [find?_eq_none_iff]
      intro taken
      exact (List.nodup_append.mp unique).2.2 _ taken _ (by simp) rfl
    show (c.add accepts e >>= fun c' => c'.addAll accepts rest) =
      (accepts e >>= fun _ => rest.forM accepts).map _
    cases accepted : accepts e with
    | error reason =>
      rw [add_eq_error_iff.mpr (.inl accepted)]
      rfl
    | ok _ =>
      have unique' : ((⟨c.entries ++ [e]⟩ : Catalog).keys ++ rest.map (·.key.folded)).Nodup := by
        simpa [keys] using unique
      rw [add_eq_ok_iff.mpr ⟨accepted, fresh, rfl⟩]
      show (⟨c.entries ++ [e]⟩ : Catalog).addAll accepts rest = (rest.forM accepts).map _
      rw [ih unique', List.append_assoc]
      rfl

/-- Reading a catalog is checking its entries again. -/
theorem ofDocument_toDocument_eq (unique : c.UniqueKeys) (inRange : c.InRange) :
    ofDocument c.toDocument =
      ((c.entries.forM Validator.standard).map fun _ => c.rewritten).mapError .refused := by
  have read : decode? c.toDocument = some (c.entries.map Entry.rewritten) :=
    Document.decode_list fun e he => Document.decode_entry e (inRange e he)
  have keys : (empty.keys ++ (c.entries.map Entry.rewritten).map (·.key.folded)).Nodup := by
    rw [List.map_map]
    exact unique
  have checked : (c.entries.map Entry.rewritten).forM Validator.standard =
      c.entries.forM Validator.standard := by
    simp only [List.forM_eq_forM, List.forM_map, Validator.standard_rewritten]
  unfold ofDocument
  rw [read]
  dsimp only
  rw [ofEntries, addAll_of_nodup keys, checked]
  rfl

/--
**A catalog is read back as it was written when all its entries pass the standard check**, and
otherwise it is refused for the first that does not.
-/
theorem ofDocument_toDocument (c : Catalog) (reached : c.Reached) (inRange : c.InRange) :
    ((∃ c', ofDocument c.toDocument = .ok c' ∧ c'.Equal c) ↔
        ∀ e ∈ c.entries, Validator.standard e = .ok ()) ∧
      (¬ (∀ e ∈ c.entries, Validator.standard e = .ok ()) →
        ∃ before e after reason, c.entries = before ++ e :: after ∧
          (∀ b ∈ before, Validator.standard b = .ok ()) ∧ Validator.standard e = .error reason ∧
          ofDocument c.toDocument = .error (.refused reason)) ∧
      ∀ key, ofDocument c.toDocument ≠ .error (.refused (.duplicateCharge key)) := by
  have read := ofDocument_toDocument_eq reached.uniqueKeys inRange
  have refused : ∀ before e after reason, c.entries = before ++ e :: after →
      (∀ b ∈ before, Validator.standard b = .ok ()) → Validator.standard e = .error reason →
      ofDocument c.toDocument = .error (.refused reason) := by
    intro before e after reason parts passed failed
    rw [read, parts, Outcome.forM_of_first passed failed]
    rfl
  rcases Outcome.forall_or_first Validator.standard c.entries with
    passed | ⟨before, e, after, reason, parts, passed, failed⟩
  · have checked : c.entries.forM Validator.standard = .ok () := Outcome.forM_eq_ok.mpr passed
    have accepted : ofDocument c.toDocument = .ok c.rewritten := by
      rw [read, checked]
      rfl
    refine ⟨⟨fun _ => passed, fun _ => ⟨c.rewritten, accepted, c.rewritten_equal⟩⟩,
      fun fails => absurd passed fails, ?_⟩
    intro key
    rw [accepted]
    exact nofun
  · have answer := refused before e after reason parts passed failed
    refine ⟨⟨?_, ?_⟩, fun _ => ⟨before, e, after, reason, parts, passed, failed, answer⟩, ?_⟩
    · rintro ⟨c', accepted, -⟩
      rw [answer] at accepted
      cases accepted
    · intro every
      rw [every e (by simp [parts])] at failed
      cases failed
    · intro key
      obtain ⟨violation, rfl⟩ := Validator.standard_error failed
      rw [answer]
      exact nofun

/-- Adds an entry whatever it is. -/
def addedLeniently (c : Catalog) (entry : Entry) : Catalog :=
  (c.tryApply (.add .lenient entry)).2

/-- A bound with zeros left out, a charge with many places and one with many zeros left out. -/
def oddlyScaled : Catalog :=
  empty.addedLeniently
    ⟨⟨"UPI", "Card"⟩, [⟨some ⟨2, -3⟩, .percent, ⟨15, 9⟩⟩, ⟨none, .flat, ⟨10, -20⟩⟩]⟩

/-- A mode that says nothing follows. -/
def oddlyKeyed : Catalog := oddlyScaled.addedLeniently (.zeroRated ⟨"UPI", " "⟩)

/-- The amounts come back worth what they were, and the mode is what the second is refused for. -/
theorem ofDocument_toDocument_oddly :
    (∃ c', ofDocument oddlyScaled.toDocument = .ok c' ∧ c'.Equal oddlyScaled ∧
      c' ≠ oddlyScaled) ∧
    ofDocument oddlyKeyed.toDocument = .error (.refused (.validation .blankMode)) ∧
    ∃ e ∈ oddlyKeyed.entries, Validator.standard e = .error (.validation .blankMode) := by
  have scaled : oddlyScaled.Reached := Reached.empty.change _
  have keyed : oddlyKeyed.Reached := scaled.change _
  obtain ⟨c', read, equal⟩ :=
    (ofDocument_toDocument oddlyScaled scaled (by decide +kernel)).1.mpr (by decide +kernel)
  have rescaled : ofDocument oddlyScaled.toDocument ≠ .ok oddlyScaled := by decide +kernel
  obtain ⟨before, e, after, reason, parts, -, failed, refused⟩ :=
    (ofDocument_toDocument oddlyKeyed keyed (by decide +kernel)).2.1 (by decide +kernel)
  have blank : ofDocument oddlyKeyed.toDocument = .error (.refused (.validation .blankMode)) := by
    decide +kernel
  rw [refused] at blank
  cases blank
  exact ⟨⟨c', read, equal, fun same => rescaled (same ▸ read)⟩, refused, e, by simp [parts], failed⟩

end Catalog

end SchoolFees

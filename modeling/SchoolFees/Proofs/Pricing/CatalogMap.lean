/-
A catalog is a map from keys to entries.

`toMap` registers every entry of a catalog under its key in lower case.  Looking a key
up in the catalog is looking its folded form up in that map (`find?_eq_get?`), and each
change to the catalog is the change of the map that its name says: `add` registers one
key that was free, `update` keeps all but the tiers of one entry, `delete` takes one key
off.  `RefinesMap` collects these laws, and `refinesMap_of_reached` proves them of every
catalog that a history of changes leads to.

All of it rests on unique keys.  The scans stop at the first entry with a key, the map
keeps the last one; that there is only one is what makes the two agree.
-/
import SchoolFees.Proofs.Pricing.CatalogKeys
import SchoolFees.Registry

namespace SchoolFees

namespace Registry

variable {κ α : Type}

/-- Takes a key off. -/
def erase [DecidableEq κ] (r : Registry κ α) (key : κ) : Registry κ α :=
  fun k => if k = key then none else r.get? k

@[simp] theorem get?_erase [DecidableEq κ] (r : Registry κ α) (key k : κ) :
    (r.erase key).get? k = if k = key then none else r.get? k := rfl

end Registry

namespace Catalog

variable {c c' : Catalog} {key : ChargeKey} {entry : Entry} {accepts : Validator}

/-- Registers every entry of a list under its folded key. -/
def register (entries : List Entry) (m : Registry ChargeKey Entry) : Registry ChargeKey Entry :=
  entries.foldl (fun m e => m.set e.key.folded e) m

/-- The catalog as a map: each entry under its key in lower case. -/
def toMap (c : Catalog) : Registry ChargeKey Entry := register c.entries ∅

/-! ### What the map says -/

/-- An entry that is registered stays under its key while other keys are registered. -/
theorem get?_register_of_notMem {entries : List Entry} {m : Registry ChargeKey Entry}
    {k : ChargeKey} (h : k ∉ entries.map (·.key.folded)) :
    (register entries m).get? k = m.get? k := by
  induction entries generalizing m with
  | nil => rfl
  | cons e rest ih =>
    rw [List.map_cons, List.mem_cons, not_or] at h
    show (register rest (m.set e.key.folded e)).get? k = m.get? k
    rw [ih h.2, Registry.get?_set, if_neg h.1]

/-- With unique keys, every entry is registered under its own. -/
theorem get?_register_of_mem {entries : List Entry} {m : Registry ChargeKey Entry}
    (unique : (entries.map (·.key.folded)).Nodup) (h : entry ∈ entries) :
    (register entries m).get? entry.key.folded = some entry := by
  induction entries generalizing m with
  | nil => cases h
  | cons e rest ih =>
    rw [List.map_cons, List.nodup_cons] at unique
    show (register rest (m.set e.key.folded e)).get? entry.key.folded = some entry
    rcases List.mem_cons.mp h with rfl | hrest
    · rw [get?_register_of_notMem unique.1, Registry.get?_set, if_pos rfl]
    · exact ih unique.2 hrest

/-- The map has the entries of the catalog and no others. -/
theorem get?_toMap_iff (unique : c.UniqueKeys) {k : ChargeKey} :
    c.toMap.get? k = some entry ↔ entry ∈ c.entries ∧ entry.key.folded = k := by
  refine ⟨?_, ?_⟩
  · intro h
    by_cases hk : k ∈ c.entries.map (·.key.folded)
    · obtain ⟨e, he, rfl⟩ := List.mem_map.mp hk
      have hreg := get?_register_of_mem (m := ∅) unique he
      rw [toMap, hreg] at h
      cases h
      exact ⟨he, rfl⟩
    · rw [toMap, get?_register_of_notMem hk] at h
      cases h
  · intro h
    obtain ⟨hmem, rfl⟩ := h
    exact get?_register_of_mem unique hmem

/-- **A scan for a key is a look into the map.** -/
theorem find?_eq_get? (unique : c.UniqueKeys) (key : ChargeKey) :
    c.find? key = c.toMap.get? key.folded := by
  refine Option.ext fun e => ?_
  rw [find?_eq_some_iff unique, get?_toMap_iff unique]

theorem toMap_eq_of_get? (unique : c'.UniqueKeys) {m : Registry ChargeKey Entry}
    (h : ∀ k e, m.get? k = some e ↔ e ∈ c'.entries ∧ e.key.folded = k) : c'.toMap = m := by
  refine Registry.ext fun k => Option.ext fun e => ?_
  rw [get?_toMap_iff unique, h]

/-- Around an entry stand only entries with other keys. -/
theorem key_ne_of_split (unique : c.UniqueKeys) {before after : List Entry}
    (hsplit : c.entries = before ++ entry :: after) :
    ∀ x ∈ before ++ after, x.key.folded ≠ entry.key.folded := by
  unfold UniqueKeys keys at unique
  rw [hsplit, List.Nodup, List.pairwise_map, List.pairwise_append, List.pairwise_cons] at unique
  obtain ⟨-, ⟨hafter, -⟩, hbefore⟩ := unique
  intro x hx
  rcases List.mem_append.mp hx with hb | ha
  · exact hbefore x hb entry (by simp)
  · exact (hafter x ha).symm

/-! ### What changes do to the map -/

theorem toMap_add (h : c.add accepts entry = .ok c') :
    c'.toMap = c.toMap.set entry.key.folded entry := by
  obtain ⟨-, -, rfl⟩ := add_eq_ok_iff.mp h
  unfold toMap register
  rw [List.foldl_append]
  rfl

/-- The tiers are replaced where the entry stands, and under its key. -/
theorem toMap_update (unique : c.UniqueKeys) (h : c.update entry = .ok c') :
    ∃ before old after, c.entries = before ++ old :: after ∧
      c'.entries = before ++ { old with tiers := entry.tiers } :: after ∧
      c.toMap.get? entry.key.folded = some old ∧
      c'.toMap = c.toMap.set entry.key.folded { old with tiers := entry.tiers } := by
  have unique' := uniqueKeys_update unique h
  obtain ⟨-, hfound, rfl⟩ := update_eq_ok_iff.mp h
  obtain ⟨old, hfound⟩ := Option.ne_none_iff_exists'.mp hfound
  obtain ⟨before, after, hsplit, hsame, hbefore⟩ := split_of_find? hfound
  have hreplaced : replaceTiers entry.key entry.tiers (before ++ old :: after) =
      before ++ { old with tiers := entry.tiers } :: after := replaceTiers_of_split hbefore hsame
  have hkey := ChargeKey.same_iff.mp hsame
  have hold := (find?_eq_get? unique entry.key).symm.trans hfound
  refine ⟨before, old, after, hsplit, by rw [← hreplaced, ← hsplit], hold, ?_⟩
  refine toMap_eq_of_get? unique' fun k e => ?_
  -- Outside the key the two lists hold the same entries, and under it one each.
  have hother : ∀ x ∈ before ++ after, x.key.folded ≠ entry.key.folded := by
    rw [← hkey]
    exact key_ne_of_split unique hsplit
  show _ ↔ e ∈ replaceTiers entry.key entry.tiers c.entries ∧ _
  rw [hsplit, hreplaced, Registry.get?_set]
  by_cases hk : k = entry.key.folded
  · subst hk
    rw [if_pos rfl, Option.some.injEq]
    refine ⟨?_, ?_⟩
    · intro heq
      subst heq
      exact ⟨by simp, hkey⟩
    · intro h
      obtain ⟨hmem, hfold⟩ := h
      rcases List.mem_append.mp hmem with hb | ha
      · exact absurd hfold (hother e (by simp [hb]))
      · rcases List.mem_cons.mp ha with rfl | ha
        · rfl
        · exact absurd hfold (hother e (by simp [ha]))
  · rw [if_neg hk, get?_toMap_iff unique, hsplit]
    refine and_congr_left fun hfold => ?_
    have hne : ∀ t : TierTable, e ≠ { old with tiers := t } := by
      intro t heq
      subst heq
      exact hk (hfold.symm.trans hkey)
    simp only [List.mem_append, List.mem_cons, hne entry.tiers, hne old.tiers, false_or]

/-- The entry is taken out where it stands, and off its key. -/
theorem toMap_delete (unique : c.UniqueKeys) (h : c.delete key = .ok (entry, c')) :
    ∃ before after, c.entries = before ++ entry :: after ∧ c'.entries = before ++ after ∧
      c.toMap.get? key.folded = some entry ∧ c'.toMap = c.toMap.erase key.folded := by
  have unique' := uniqueKeys_delete unique h
  obtain ⟨hfound, rfl⟩ := delete_eq_ok_iff.mp h
  obtain ⟨before, after, hsplit, hsame, hbefore⟩ := split_of_find? hfound
  have herased : (before ++ entry :: after).eraseP (·.key.same key) = before ++ after :=
    eraseP_of_split hbefore hsame
  have hkey := ChargeKey.same_iff.mp hsame
  refine ⟨before, after, hsplit, by rw [← herased, ← hsplit],
    (find?_eq_get? unique key).symm.trans hfound, ?_⟩
  refine toMap_eq_of_get? unique' fun k e => ?_
  have hother : ∀ x ∈ before ++ after, x.key.folded ≠ key.folded := by
    rw [← hkey]
    exact key_ne_of_split unique hsplit
  show _ ↔ e ∈ c.entries.eraseP (·.key.same key) ∧ _
  rw [hsplit, herased, Registry.get?_erase]
  by_cases hk : k = key.folded
  · subst hk
    rw [if_pos rfl]
    refine ⟨?_, ?_⟩
    · intro h
      cases h
    · intro h
      obtain ⟨hmem, hfold⟩ := h
      exact absurd hfold (hother e hmem)
  · rw [if_neg hk, get?_toMap_iff unique, hsplit]
    refine and_congr_left fun hfold => ?_
    have hne : e ≠ entry := by
      intro heq
      subst heq
      exact hk (hfold.symm.trans hkey)
    simp only [List.mem_append, List.mem_cons, hne, false_or]

/-! ### The refinement -/

theorem folded_fallback (key : ChargeKey) :
    key.fallback.folded = ⟨Text.foldCase key.platform, "others"⟩ := by
  show ChargeKey.mk (Text.foldCase key.platform) (Text.foldCase ChargeKey.others) = _
  rw [show Text.foldCase ChargeKey.others = "others" from by decide +kernel]

/-- A change is refused where the catalog is this map, for this reason. -/
inductive Refused (m : Registry ChargeKey Entry) : CatalogChange → FeeError → Prop
  | unaccepted {accepts : Validator} {entry : Entry} {e : FeeError}
      (rejected : accepts entry = .error e) : Refused m (.add accepts entry) e
  | taken {accepts : Validator} {entry old : Entry} (accepted : accepts entry = .ok ())
      (used : m.get? entry.key.folded = some old) :
      Refused m (.add accepts entry) (.duplicateCharge entry.key)
  | disordered {entry : Entry} {e : FeeError} (rejected : Validator.standard entry = .error e) :
      Refused m (.update entry) e
  | unknown {entry : Entry} (accepted : Validator.standard entry = .ok ())
      (free : m.get? entry.key.folded = none) :
      Refused m (.update entry) (.chargeNotFound entry.key)
  | absent {key : ChargeKey} (free : m.get? key.folded = none) :
      Refused m (.delete key) (.chargeNotFound key)

/-- The catalog behaves as the map from folded keys to entries. -/
structure RefinesMap (c : Catalog) (m : Registry ChargeKey Entry) : Prop where
  /-- No two entries have keys that agree up to the case of ASCII letters. -/
  unique : c.entries.Pairwise fun a b => a.key.folded ≠ b.key.folded
  /-- The map has the entries of the catalog, each under its key in lower case. -/
  registered : ∀ k e, m.get? k = some e ↔ e ∈ c.entries ∧ e.key.folded = k
  /-- A key is priced by its own entry, or else by that of the rest of its platform. -/
  lookup : ∀ key, c.lookup key =
    match m.get? key.folded, m.get? ⟨Text.foldCase key.platform, "others"⟩ with
    | some own, _ => .ok own
    | none, some rest => .ok rest
    | none, none => .error (.noChargeConfigured key)
  /-- Adding takes an accepted entry under a free key, and registers it there. -/
  add : ∀ (accepts : Validator) (entry : Entry),
    ((∃ c', c.add accepts entry = .ok c') ↔
      accepts entry = .ok () ∧ m.get? entry.key.folded = none) ∧
    ∀ c', c.add accepts entry = .ok c' →
      c'.entries = c.entries ++ [entry] ∧ c'.toMap = m.set entry.key.folded entry
  /-- An update takes an entry in good order under a key in use.  The entry there gets the new
  tiers and keeps its spelling and its place. -/
  update : ∀ entry : Entry,
    ((∃ c', c.update entry = .ok c') ↔
      Validator.standard entry = .ok () ∧ ∃ old, m.get? entry.key.folded = some old) ∧
    ∀ c', c.update entry = .ok c' →
      ∃ before old after, c.entries = before ++ old :: after ∧
        c'.entries = before ++ { old with tiers := entry.tiers } :: after ∧
        m.get? entry.key.folded = some old ∧
        c'.toMap = m.set entry.key.folded { old with tiers := entry.tiers }
  /-- Deleting takes a key in use, hands its entry back and leaves the others where they are.  From
  then on the key is free again. -/
  delete : ∀ key : ChargeKey,
    ((∃ removed c', c.delete key = .ok (removed, c')) ↔ ∃ e, m.get? key.folded = some e) ∧
    ∀ removed c', c.delete key = .ok (removed, c') →
      (∃ before after, c.entries = before ++ removed :: after ∧ c'.entries = before ++ after) ∧
        m.get? key.folded = some removed ∧ c'.toMap = m.erase key.folded ∧
        ∀ (accepts : Validator) (entry : Entry), accepts entry = .ok () →
          entry.key.folded = key.folded → ∃ c'', c'.add accepts entry = .ok c''
  /-- A change fails for the reasons that the map gives, and then leaves the catalog as it was. -/
  failed : ∀ (change : CatalogChange) (e : FeeError),
    ((c.tryApply change).1 = .error e ↔ Refused m change e) ∧
      ((c.tryApply change).1 = .error e → (c.tryApply change).2 = c)

theorem exists_add_iff (unique : c.UniqueKeys) :
    (∃ c', c.add accepts entry = .ok c') ↔
      accepts entry = .ok () ∧ c.toMap.get? entry.key.folded = none := by
  simp only [add_eq_ok_iff, find?_eq_get? unique]
  refine ⟨?_, ?_⟩
  · intro h
    obtain ⟨c', haccepts, hnew, -⟩ := h
    exact ⟨haccepts, hnew⟩
  · intro h
    obtain ⟨haccepts, hnew⟩ := h
    exact ⟨_, haccepts, hnew, rfl⟩

theorem exists_update_iff (unique : c.UniqueKeys) :
    (∃ c', c.update entry = .ok c') ↔
      Validator.standard entry = .ok () ∧ ∃ old, c.toMap.get? entry.key.folded = some old := by
  simp only [update_eq_ok_iff, find?_eq_get? unique, ← Option.ne_none_iff_exists']
  refine ⟨?_, ?_⟩
  · intro h
    obtain ⟨c', hstandard, hold, -⟩ := h
    exact ⟨hstandard, hold⟩
  · intro h
    obtain ⟨hstandard, hold⟩ := h
    exact ⟨_, hstandard, hold, rfl⟩

theorem exists_delete_iff (unique : c.UniqueKeys) :
    (∃ removed c', c.delete key = .ok (removed, c')) ↔
      ∃ e, c.toMap.get? key.folded = some e := by
  simp only [delete_eq_ok_iff, find?_eq_get? unique]
  refine ⟨?_, ?_⟩
  · intro h
    obtain ⟨removed, c', hfound, -⟩ := h
    exact ⟨removed, hfound⟩
  · intro h
    obtain ⟨e, hfound⟩ := h
    exact ⟨e, _, hfound, rfl⟩

theorem exists_add_of_delete {removed : Entry} (unique : c.UniqueKeys)
    (h : c.delete key = .ok (removed, c')) (haccepts : accepts entry = .ok ())
    (hkey : entry.key.folded = key.folded) : ∃ c'', c'.add accepts entry = .ok c'' := by
  obtain ⟨-, -, -, -, -, hmap⟩ := toMap_delete unique h
  refine (exists_add_iff (uniqueKeys_delete unique h)).mpr ⟨haccepts, ?_⟩
  rw [hmap, hkey, Registry.get?_erase, if_pos rfl]

/-- The errors of a change are the reasons that the map gives. -/
theorem apply_eq_error_iff (unique : c.UniqueKeys) {change : CatalogChange} {e : FeeError} :
    c.apply change = .error e ↔ Refused c.toMap change e := by
  cases change with
  | add accepts entry =>
    have bare : c.apply (.add accepts entry) = .error e ↔ c.add accepts entry = .error e :=
      Outcome.bind_pure_eq_error
    rw [bare, add_eq_error_iff, find?_eq_get? unique]
    refine ⟨?_, ?_⟩
    · intro h
      rcases h with rejected | ⟨accepted, used, rfl⟩
      · exact .unaccepted rejected
      · obtain ⟨old, used⟩ := Option.ne_none_iff_exists'.mp used
        exact .taken accepted used
    · intro h
      cases h with
      | unaccepted rejected => exact Or.inl rejected
      | taken accepted used => exact Or.inr ⟨accepted, by simp [used], rfl⟩
  | update entry =>
    have bare : c.apply (.update entry) = .error e ↔ c.update entry = .error e :=
      Outcome.bind_pure_eq_error
    rw [bare, update_eq_error_iff, find?_eq_get? unique]
    refine ⟨?_, ?_⟩
    · intro h
      rcases h with rejected | ⟨accepted, free, rfl⟩
      · exact .disordered rejected
      · exact .unknown accepted free
    · intro h
      cases h with
      | disordered rejected => exact Or.inl rejected
      | unknown accepted free => exact Or.inr ⟨accepted, free, rfl⟩
  | delete key =>
    have bare : c.apply (.delete key) = .error e ↔ c.delete key = .error e :=
      Outcome.bind_pure_eq_error
    rw [bare, delete_eq_error_iff, find?_eq_get? unique]
    refine ⟨?_, ?_⟩
    · intro h
      obtain ⟨free, rfl⟩ := h
      exact .absent free
    · intro h
      cases h with
      | absent free => exact ⟨free, rfl⟩

/--
**A catalog refines the map of its entries.**  Whatever history of changes led to it,
whichever validators let its entries in and however its keys are spelled, the catalog
answers as the map from folded keys to entries does, and its changes are changes of
that map.
-/
theorem refinesMap_of_reached (c : Catalog) (reached : c.Reached) : c.RefinesMap c.toMap where
  unique := List.pairwise_map.mp reached.uniqueKeys
  registered k e := get?_toMap_iff reached.uniqueKeys
  lookup key := by
    unfold lookup
    rw [find?_eq_get? reached.uniqueKeys, find?_eq_get? reached.uniqueKeys, folded_fallback]
    cases c.toMap.get? key.folded with
    | some own => rfl
    | none =>
      cases c.toMap.get? ⟨Text.foldCase key.platform, "others"⟩ with
      | some rest => rfl
      | none => rfl
  add accepts entry :=
    ⟨exists_add_iff reached.uniqueKeys, fun c' h => by
      obtain ⟨-, -, rfl⟩ := add_eq_ok_iff.mp h
      exact ⟨rfl, toMap_add h⟩⟩
  update entry :=
    ⟨exists_update_iff reached.uniqueKeys, fun _ h => toMap_update reached.uniqueKeys h⟩
  delete key :=
    ⟨exists_delete_iff reached.uniqueKeys, fun removed c' h => by
      obtain ⟨before, after, hsplit, hrest, hfound, hmap⟩ := toMap_delete reached.uniqueKeys h
      exact ⟨⟨before, after, hsplit, hrest⟩, hfound, hmap,
        fun _ _ => exists_add_of_delete reached.uniqueKeys h⟩⟩
  failed change e := by
    rw [← apply_eq_error_iff reached.uniqueKeys]
    cases hchange : c.apply change with
    | error e' =>
      rw [tryApply_of_error hchange]
      simp
    | ok p =>
      rw [tryApply_of_ok hchange]
      simp

/-- The standard catalog without the charges of one platform, asked for in another spelling. -/
theorem refinesMap_of_deleted_spelling :
    (Catalog.standard.tryApply (.delete ⟨"upi", "OTHERS"⟩)).2.Reached ∧
      (Catalog.standard.tryApply (.delete ⟨"upi", "OTHERS"⟩)).2.RefinesMap
        (Catalog.standard.tryApply (.delete ⟨"upi", "OTHERS"⟩)).2.toMap := by
  have reached : (Catalog.standard.tryApply (.delete ⟨"upi", "OTHERS"⟩)).2.Reached :=
    .change .standard _
  exact ⟨reached, refinesMap_of_reached _ reached⟩

end Catalog

end SchoolFees

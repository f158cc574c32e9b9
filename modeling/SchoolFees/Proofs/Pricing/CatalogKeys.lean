/-
Keys name entries.

The keys of a catalog are pairwise different up to the case of ASCII letters
(`UniqueKeys`).  That is what makes the first entry that a scan finds the only one
there is, and so the order of the scan, and the spelling that a key is asked under,
of no account.

Adding is the one operation that could break this, and it looks for the key first;
new tiers keep the key they are put under, and taking an entry out leaves the others as
they are.  No validator has a part in it, so the invariant holds for every catalog that
a history of changes leads to (`Reached.uniqueKeys`), whatever its validators accept.

Every operation that succeeds is described once, by what it does to the list of
entries: `add` writes at the end, `update` and `delete` change the list at the place
where the entry stands.
-/
import Mathlib.Data.List.Nodup
import SchoolFees.Pricing.Catalog
import SchoolFees.Proofs.Outcome

namespace SchoolFees

namespace Catalog

variable {c c' : Catalog} {key : ChargeKey} {entry : Entry} {accepts : Validator}

/-- The keys of the entries in lower case, in the order of the entries. -/
def keys (c : Catalog) : List ChargeKey := c.entries.map (·.key.folded)

/-- No two entries have the same key. -/
def UniqueKeys (c : Catalog) : Prop := c.keys.Nodup

/-! ### Finding an entry -/

theorem find?_eq_none_iff : c.find? key = none ↔ key.folded ∉ c.keys := by
  unfold find? keys
  rw [List.find?_eq_none, List.mem_map]
  refine ⟨?_, ?_⟩
  · intro h hmem
    obtain ⟨e, he, hkey⟩ := hmem
    exact h e he (ChargeKey.same_iff.mpr hkey)
  · intro h e he hsame
    exact h ⟨e, he, ChargeKey.same_iff.mp hsame⟩

/-- What is found stands somewhere in the list, behind entries with other keys. -/
theorem split_of_find? (h : c.find? key = some entry) :
    ∃ before after, c.entries = before ++ entry :: after ∧ entry.key.same key = true ∧
      ∀ b ∈ before, b.key.same key = false := by
  unfold find? at h
  obtain ⟨hsame, before, after, hsplit, hbefore⟩ := List.find?_eq_some_iff_append.mp h
  exact ⟨before, after, hsplit, hsame, fun b hb => by simpa using hbefore b hb⟩

/-- With unique keys, the entry found is the one that has the key. -/
theorem find?_eq_some_iff (unique : c.UniqueKeys) :
    c.find? key = some entry ↔ entry ∈ c.entries ∧ entry.key.folded = key.folded := by
  refine ⟨?_, ?_⟩
  · intro h
    obtain ⟨before, after, hsplit, hsame, -⟩ := split_of_find? h
    exact ⟨by simp [hsplit], ChargeKey.same_iff.mp hsame⟩
  · intro h
    obtain ⟨hmem, hkey⟩ := h
    cases hfound : c.find? key with
    | none => exact absurd (hkey ▸ List.mem_map_of_mem hmem) (find?_eq_none_iff.mp hfound)
    | some other =>
      obtain ⟨before, after, hsplit, hsame, -⟩ := split_of_find? hfound
      have hother : other ∈ c.entries := by simp [hsplit]
      have hfold : other.key.folded = entry.key.folded :=
        (ChargeKey.same_iff.mp hsame).trans hkey.symm
      rw [List.inj_on_of_nodup_map unique hother hmem hfold]

/-- A lookup tries the key, and then the key of the remaining modes. -/
theorem toOption_lookup (c : Catalog) (key : ChargeKey) :
    (c.lookup key).toOption = (c.find? key <|> c.find? key.fallback) := by
  unfold lookup
  cases c.find? key <|> c.find? key.fallback with
  | none => rfl
  | some entry => rfl

/-! ### What a change does to the list -/

theorem replaceTiers_of_split {before after : List Entry} {tiers : TierTable}
    (hbefore : ∀ b ∈ before, b.key.same key = false) (hsame : entry.key.same key = true) :
    replaceTiers key tiers (before ++ entry :: after) =
      before ++ { entry with tiers := tiers } :: after := by
  induction before with
  | nil => simp [replaceTiers, hsame]
  | cons b rest ih =>
    have hb : b.key.same key = false := hbefore b (by simp)
    have hrest := ih fun x hx => hbefore x (by simp [hx])
    simp [replaceTiers, hb, hrest]

theorem eraseP_of_split {before after : List Entry}
    (hbefore : ∀ b ∈ before, b.key.same key = false) (hsame : entry.key.same key = true) :
    (before ++ entry :: after).eraseP (·.key.same key) = before ++ after := by
  rw [List.eraseP_append_right _ (fun b hb => by simp [hbefore b hb])]
  simp [hsame]

/-- Adding succeeds when the entry is accepted and its key is new, and writes at the end. -/
theorem add_eq_ok_iff :
    c.add accepts entry = .ok c' ↔
      accepts entry = .ok () ∧ c.find? entry.key = none ∧ c' = ⟨c.entries ++ [entry]⟩ := by
  unfold add
  rw [Outcome.bind_eq_ok]
  refine ⟨?_, ?_⟩
  · intro h
    obtain ⟨_, haccepts, h⟩ := h
    cases hfound : c.find? entry.key with
    | none =>
      rw [hfound] at h
      cases h
      exact ⟨haccepts, rfl, rfl⟩
    | some _ =>
      rw [hfound] at h
      cases h
  · intro h
    obtain ⟨haccepts, hfound, rfl⟩ := h
    refine ⟨(), haccepts, ?_⟩
    rw [hfound]

/-- Adding reports what the validator has against the entry, or else that its key is taken. -/
theorem add_eq_error_iff {e : FeeError} :
    c.add accepts entry = .error e ↔
      accepts entry = .error e ∨
        accepts entry = .ok () ∧ c.find? entry.key ≠ none ∧ e = .duplicateCharge entry.key := by
  unfold add
  rw [Outcome.bind_eq_error]
  refine or_congr Iff.rfl ⟨?_, ?_⟩
  · intro h
    obtain ⟨_, haccepts, h⟩ := h
    cases hfound : c.find? entry.key with
    | none =>
      rw [hfound] at h
      cases h
    | some _ =>
      rw [hfound] at h
      cases h
      exact ⟨haccepts, by simp, rfl⟩
  · intro h
    obtain ⟨haccepts, hfound, rfl⟩ := h
    refine ⟨(), haccepts, ?_⟩
    obtain ⟨found, hfound⟩ := Option.ne_none_iff_exists'.mp hfound
    rw [hfound]

/-- An update succeeds when the entry passes the standard check and its key is there. -/
theorem update_eq_ok_iff :
    c.update entry = .ok c' ↔
      Validator.standard entry = .ok () ∧ c.find? entry.key ≠ none ∧
        c' = ⟨replaceTiers entry.key entry.tiers c.entries⟩ := by
  unfold update
  rw [Outcome.bind_eq_ok]
  refine ⟨?_, ?_⟩
  · intro h
    obtain ⟨_, hstandard, h⟩ := h
    cases hfound : c.find? entry.key with
    | none =>
      rw [hfound] at h
      cases h
    | some _ =>
      rw [hfound] at h
      cases h
      exact ⟨hstandard, by simp, rfl⟩
  · intro h
    obtain ⟨hstandard, hfound, rfl⟩ := h
    refine ⟨(), hstandard, ?_⟩
    obtain ⟨found, hfound⟩ := Option.ne_none_iff_exists'.mp hfound
    rw [hfound]

theorem update_eq_error_iff {e : FeeError} :
    c.update entry = .error e ↔
      Validator.standard entry = .error e ∨
        Validator.standard entry = .ok () ∧ c.find? entry.key = none ∧
          e = .chargeNotFound entry.key := by
  unfold update
  rw [Outcome.bind_eq_error]
  refine or_congr Iff.rfl ⟨?_, ?_⟩
  · intro h
    obtain ⟨_, hstandard, h⟩ := h
    cases hfound : c.find? entry.key with
    | none =>
      rw [hfound] at h
      cases h
      exact ⟨hstandard, rfl, rfl⟩
    | some _ =>
      rw [hfound] at h
      cases h
  · intro h
    obtain ⟨hstandard, hfound, rfl⟩ := h
    refine ⟨(), hstandard, ?_⟩
    rw [hfound]

/-- Taking an entry out succeeds when its key is there, and hands the entry back. -/
theorem delete_eq_ok_iff :
    c.delete key = .ok (entry, c') ↔
      c.find? key = some entry ∧ c' = ⟨c.entries.eraseP (·.key.same key)⟩ := by
  unfold delete
  cases hfound : c.find? key with
  | none => simp
  | some found =>
    simp only [Except.ok.injEq, Prod.mk.injEq, Option.some.injEq]
    exact and_congr Iff.rfl eq_comm

theorem delete_eq_error_iff {e : FeeError} :
    c.delete key = .error e ↔ c.find? key = none ∧ e = .chargeNotFound key := by
  unfold delete
  cases hfound : c.find? key with
  | none =>
    simp only [Except.error.injEq, true_and]
    exact eq_comm
  | some found => simp

/-! ### Changes keep keys unique -/

theorem uniqueKeys_empty : UniqueKeys .empty := List.nodup_nil

theorem uniqueKeys_standard : UniqueKeys .standard := by
  unfold UniqueKeys
  decide +kernel

theorem uniqueKeys_add (unique : c.UniqueKeys) (h : c.add accepts entry = .ok c') :
    c'.UniqueKeys := by
  obtain ⟨-, hnew, rfl⟩ := add_eq_ok_iff.mp h
  have hfresh := find?_eq_none_iff.mp hnew
  unfold UniqueKeys keys at unique hfresh ⊢
  rw [List.map_append, List.nodup_append]
  refine ⟨unique, by simp, ?_⟩
  intro k hk l hl hkl
  have hentry : l = entry.key.folded := by simpa using hl
  rw [hkl, hentry] at hk
  exact hfresh hk

theorem keys_update (h : c.update entry = .ok c') : c'.keys = c.keys := by
  obtain ⟨-, hfound, rfl⟩ := update_eq_ok_iff.mp h
  obtain ⟨found, hfound⟩ := Option.ne_none_iff_exists'.mp hfound
  obtain ⟨before, after, hsplit, hsame, hbefore⟩ := split_of_find? hfound
  unfold keys
  rw [hsplit, replaceTiers_of_split hbefore hsame]
  simp

theorem uniqueKeys_update (unique : c.UniqueKeys) (h : c.update entry = .ok c') :
    c'.UniqueKeys := by
  unfold UniqueKeys
  rw [keys_update h]
  exact unique

theorem uniqueKeys_delete (unique : c.UniqueKeys) (h : c.delete key = .ok (entry, c')) :
    c'.UniqueKeys := by
  obtain ⟨-, rfl⟩ := delete_eq_ok_iff.mp h
  exact List.Nodup.sublist (List.eraseP_sublist.map _) unique

theorem uniqueKeys_addAll {entries : List Entry} (unique : c.UniqueKeys)
    (h : c.addAll accepts entries = .ok c') : c'.UniqueKeys := by
  unfold addAll at h
  induction entries generalizing c with
  | nil => cases h; exact unique
  | cons entry rest ih =>
    rw [List.foldlM_cons] at h
    obtain ⟨c₁, hadd, hrest⟩ := Outcome.bind_eq_ok.mp h
    exact ih (uniqueKeys_add unique hadd) hrest

theorem uniqueKeys_ofEntries {entries : List Entry} (h : ofEntries entries = .ok c) :
    c.UniqueKeys := uniqueKeys_addAll uniqueKeys_empty h

end Catalog

/-! ### Histories of changes -/

/-- A change to a catalog. -/
inductive CatalogChange where
  /-- Adds an entry that this validator has to accept. -/
  | add (accepts : Validator) (entry : Entry)
  | update (entry : Entry)
  | delete (key : ChargeKey)

namespace Catalog

/-- What a change hands back, if anything, and the catalog after it. -/
def apply (c : Catalog) : CatalogChange → Except FeeError (Option Entry × Catalog)
  | .add accepts entry => do
    let c' ← c.add accepts entry
    return (none, c')
  | .update entry => do
    let c' ← c.update entry
    return (none, c')
  | .delete key => do
    let (entry, c') ← c.delete key
    return (some entry, c')

/-- Makes a change, and goes on with the catalog as it was if the change fails. -/
def tryApply (c : Catalog) (change : CatalogChange) : Except FeeError (Option Entry) × Catalog :=
  match c.apply change with
  | .ok (answer, c') => (.ok answer, c')
  | .error e => (.error e, c)

/-- Some history of changes leads to this catalog. -/
inductive Reached : Catalog → Prop
  | empty : Reached .empty
  | standard : Reached .standard
  | ofEntries {entries : List Entry} {c : Catalog} (h : Catalog.ofEntries entries = .ok c) :
      Reached c
  | change {c : Catalog} (earlier : Reached c) (change : CatalogChange) :
      Reached (c.tryApply change).2

theorem uniqueKeys_apply {c c' : Catalog} {change : CatalogChange} {answer : Option Entry}
    (unique : c.UniqueKeys) (h : c.apply change = .ok (answer, c')) : c'.UniqueKeys := by
  cases change with
  | add accepts entry =>
    obtain ⟨c₁, hadd, h⟩ := Outcome.bind_eq_ok.mp h
    cases h
    exact uniqueKeys_add unique hadd
  | update entry =>
    obtain ⟨c₁, hupdate, h⟩ := Outcome.bind_eq_ok.mp h
    cases h
    exact uniqueKeys_update unique hupdate
  | delete key =>
    obtain ⟨⟨removed, c₁⟩, hdelete, h⟩ := Outcome.bind_eq_ok.mp h
    cases h
    exact uniqueKeys_delete unique hdelete

/-- A change that fails leaves everything as it was. -/
theorem tryApply_of_error {c : Catalog} {change : CatalogChange} {e : FeeError}
    (h : c.apply change = .error e) : c.tryApply change = (.error e, c) := by
  unfold tryApply
  rw [h]

theorem tryApply_of_ok {c c' : Catalog} {change : CatalogChange} {answer : Option Entry}
    (h : c.apply change = .ok (answer, c')) : c.tryApply change = (.ok answer, c') := by
  unfold tryApply
  rw [h]

/-- **Keys are unique in every catalog that a history leads to.** -/
theorem Reached.uniqueKeys {c : Catalog} (h : c.Reached) : c.UniqueKeys := by
  induction h with
  | empty => exact uniqueKeys_empty
  | standard => exact uniqueKeys_standard
  | ofEntries h => exact uniqueKeys_ofEntries h
  | @change c _ change ih =>
    cases hchange : c.apply change with
    | error e => rw [tryApply_of_error hchange]; exact ih
    | ok p => rw [tryApply_of_ok hchange]; exact uniqueKeys_apply ih hchange

end Catalog

end SchoolFees

/-
Catalogs whose keys are spelled otherwise.

Two catalogs are compared by their foldings, in which every key is in lower case: with the
same folding, they have the same tables under the same keys in the same order.  Every
operation on catalogs answers alike on two such catalogs, under any two spellings of a
key.  Either both succeed, and what comes of it folds to the same again, or both fail, and
then with one error up to the spelling of the keys that it echoes (`Outcome.Alike`).

The operations find an entry by comparing keys during a scan.  Folding the keys first
makes no difference to such a scan (`Catalog.find?_folded`), and the other lemmas come
down to this one.
-/
import SchoolFees.Proofs.Pricing.CatalogKeys
import SchoolFees.Proofs.Spelling

namespace SchoolFees

/-! ### Outcomes up to spelling -/

/-- The violation with the key that it echoes in lower case. -/
def Violation.folded : Violation → Violation
  | .boundsNotAscending key => .boundsNotAscending key.folded
  | violation => violation

/-- The error with the keys that it echoes in lower case. -/
def FeeError.folded : FeeError → FeeError
  | .noChargeConfigured key => .noChargeConfigured key.folded
  | .duplicateCharge key => .duplicateCharge key.folded
  | .chargeNotFound key => .chargeNotFound key.folded
  | .layerFailed layer cause => .layerFailed layer cause.folded
  | .validation violation => .validation violation.folded
  | e => e

namespace Outcome

variable {α β γ δ : Type} {agree : α → β → Prop} {agree' : γ → δ → Prop}
  {x : Except FeeError α} {y : Except FeeError β}

/-- Both succeed, and the results agree, or both fail with one error up to the spelling of keys. -/
inductive Alike (agree : α → β → Prop) : Except FeeError α → Except FeeError β → Prop
  | ok {a : α} {b : β} (h : agree a b) : Alike agree (.ok a) (.ok b)
  | error {e f : FeeError} (h : e.folded = f.folded) : Alike agree (.error e) (.error f)

theorem Alike.refl {agree : α → α → Prop} (h : ∀ a, agree a a) (x : Except FeeError α) :
    Alike agree x x := by
  cases x with
  | error e => exact .error rfl
  | ok a => exact .ok (h a)

theorem Alike.eq_ok {a : α} {y : Except FeeError α} (h : Alike Eq (.ok a) y) : y = .ok a := by
  cases h with
  | ok same => rw [same]

/-- Chains of alike steps are alike. -/
theorem Alike.bind {f : α → Except FeeError γ} {g : β → Except FeeError δ}
    (begins : Alike agree x y) (onward : ∀ a b, agree a b → Alike agree' (f a) (g b)) :
    Alike agree' (x >>= f) (y >>= g) := by
  cases begins with
  | ok h => exact onward _ _ h
  | error h => exact .error h

/-- What alike outcomes have agrees, if they have anything. -/
theorem Alike.map_toOption {f : α → γ} {g : β → γ} (h : Alike (fun a b => f a = g b) x y) :
    x.toOption.map f = y.toOption.map g := by
  cases h with
  | ok h => exact congrArg some h
  | error _ => rfl

theorem Alike.inLayer (layer : Layer) (h : Alike agree x y) :
    Alike agree (x.mapError (FeeError.inLayer layer)) (y.mapError (FeeError.inLayer layer)) := by
  cases h with
  | ok h => exact .ok h
  | error h => exact .error (congrArg (FeeError.layerFailed layer) h)

theorem require_alike (p : Prop) [Decidable p] {e e' : FeeError} (h : e.folded = e'.folded) :
    Alike Eq (require p e) (require p e') := by
  unfold require
  by_cases holds : p
  · rw [if_pos holds, if_pos holds]
    exact .ok rfl
  · rw [if_neg holds, if_neg holds]
    exact .error h

end Outcome

/-! ### Entries up to spelling -/

/-- Folding two keys makes no difference to their comparison. -/
theorem ChargeKey.folded_same_folded (k l : ChargeKey) : k.folded.same l.folded = k.same l := by
  rw [Bool.eq_iff_iff, same_iff, same_iff, folded_folded, folded_folded]

/-- The entry with its key in lower case. -/
def Entry.folded (e : Entry) : Entry := ⟨e.key.folded, e.tiers⟩

@[simp] theorem Entry.key_folded (e : Entry) : e.folded.key = e.key.folded := rfl

theorem Entry.folded_eq_iff {e e' : Entry} :
    e.folded = e'.folded ↔ e.key.folded = e'.key.folded ∧ e.tiers = e'.tiers := by
  rw [folded, folded, Entry.mk.injEq]

namespace Validator

variable {e e' : Entry}

/-- No letter is a blank, so the spelling of its key does not matter to a good entry. -/
theorem standard_folded (e : Entry) : standard e.folded = standard e := by
  simp only [standard, Entry.folded, ChargeKey.folded, Text.isAllBlank_foldCase]

theorem standard_alike (h : e.folded = e'.folded) :
    Outcome.Alike Eq (standard e) (standard e') := by
  rw [← standard_folded e, ← standard_folded e', h]
  exact .refl (fun _ => rfl) _

/-- A strict validator reports the key itself, when the bounds under it do not rise. -/
theorem strict_alike (h : e.folded = e'.folded) : Outcome.Alike Eq (strict e) (strict e') := by
  obtain ⟨keys, tiers⟩ := Entry.folded_eq_iff.mp h
  unfold strict
  rw [tiers]
  refine (standard_alike h).bind fun _ _ _ => ?_
  refine (Outcome.Alike.refl (fun _ => rfl) (e'.tiers.forM Tier.check)).bind fun _ _ _ => ?_
  exact Outcome.require_alike _ (congrArg (FeeError.validation ∘ Violation.boundsNotAscending) keys)

end Validator

/-! ### Catalogs up to spelling -/

namespace Catalog

variable {c c' : Catalog} {key key' : ChargeKey} {e e' : Entry} {accepts : Validator}

/-- The catalog with all its keys in lower case. -/
def folded (c : Catalog) : Catalog := ⟨c.entries.map Entry.folded⟩

/-- The same entries in the same order, up to the spelling of their keys. -/
def Respelled (c c' : Catalog) : Prop := c.folded = c'.folded

/-- **A scan finds the same entry among folded keys.** -/
theorem find?_folded (c : Catalog) (key : ChargeKey) :
    c.folded.find? key.folded = (c.find? key).map Entry.folded := by
  simp only [find?, folded, List.find?_map, Function.comp_def, Entry.key_folded,
    ChargeKey.folded_same_folded]

/-- Respelled catalogs have respelled entries under respelled keys, or neither has one. -/
theorem find?_cases (h : c.Respelled c') (keys : key.folded = key'.folded) :
    c.find? key = none ∧ c'.find? key' = none ∨
      ∃ e e', c.find? key = some e ∧ c'.find? key' = some e' ∧ e.folded = e'.folded := by
  have found : (c.find? key).map Entry.folded = (c'.find? key').map Entry.folded := by
    rw [← find?_folded, ← find?_folded, h, keys]
  cases first : c.find? key with
  | none =>
    rw [first] at found
    exact .inl ⟨rfl, Option.map_eq_none_iff.mp found.symm⟩
  | some e =>
    rw [first] at found
    obtain ⟨e', second, same⟩ := Option.map_eq_some_iff.mp found.symm
    exact .inr ⟨e, e', rfl, second, same.symm⟩

theorem lookup_alike (h : c.Respelled c') (keys : key.folded = key'.folded) :
    Outcome.Alike (fun e e' => e.folded = e'.folded) (c.lookup key) (c'.lookup key') := by
  unfold lookup
  rcases find?_cases h keys with ⟨own, own'⟩ | ⟨e, e', own, own', same⟩
  · rw [own, own']
    rcases find?_cases h (ChargeKey.folded_fallback_congr keys) with
      ⟨rest, rest'⟩ | ⟨e, e', rest, rest', same⟩
    · rw [rest, rest']
      exact .error (congrArg FeeError.noChargeConfigured keys)
    · rw [rest, rest']
      exact .ok same
  · rw [own, own']
    exact .ok same

theorem add_alike (h : c.Respelled c') (entries : e.folded = e'.folded)
    (taken : Outcome.Alike Eq (accepts e) (accepts e')) :
    Outcome.Alike Respelled (c.add accepts e) (c'.add accepts e') := by
  have keys := (Entry.folded_eq_iff.mp entries).1
  refine taken.bind fun _ _ _ => ?_
  rcases find?_cases h keys with ⟨own, own'⟩ | ⟨_, _, own, own', -⟩
  · rw [own, own']
    have longer : c.entries.map Entry.folded ++ [e.folded] =
        c'.entries.map Entry.folded ++ [e'.folded] := by
      rw [entries, Catalog.mk.inj h]
    exact .ok (by simpa [Respelled, folded] using longer)
  · rw [own, own']
    exact .error (congrArg FeeError.duplicateCharge keys)

theorem map_replaceTiers (key : ChargeKey) (tiers : TierTable) (entries : List Entry) :
    (replaceTiers key tiers entries).map Entry.folded =
      replaceTiers key.folded tiers (entries.map Entry.folded) := by
  induction entries with
  | nil => rfl
  | cons e rest ih =>
    rw [List.map_cons, replaceTiers, replaceTiers, Entry.key_folded, ChargeKey.folded_same_folded]
    by_cases here : e.key.same key = true
    · rw [if_pos here, if_pos here]
      rfl
    · rw [if_neg here, if_neg here, List.map_cons, ih]

theorem update_alike (h : c.Respelled c') (entries : e.folded = e'.folded) :
    Outcome.Alike Respelled (c.update e) (c'.update e') := by
  obtain ⟨keys, tiers⟩ := Entry.folded_eq_iff.mp entries
  refine (Validator.standard_alike entries).bind fun _ _ _ => ?_
  rcases find?_cases h keys with ⟨own, own'⟩ | ⟨_, _, own, own', -⟩
  · rw [own, own']
    exact .error (congrArg FeeError.chargeNotFound keys)
  · rw [own, own']
    refine .ok (congrArg Catalog.mk ?_)
    rw [map_replaceTiers, map_replaceTiers, keys, tiers, Catalog.mk.inj h]

theorem map_eraseP (key : ChargeKey) (entries : List Entry) :
    (entries.eraseP (·.key.same key)).map Entry.folded =
      (entries.map Entry.folded).eraseP (·.key.same key.folded) := by
  simp only [List.eraseP_map, Function.comp_def, Entry.key_folded, ChargeKey.folded_same_folded]

theorem delete_alike (h : c.Respelled c') (keys : key.folded = key'.folded) :
    Outcome.Alike (fun p q => p.1.folded = q.1.folded ∧ p.2.Respelled q.2) (c.delete key)
      (c'.delete key') := by
  unfold delete
  rcases find?_cases h keys with ⟨own, own'⟩ | ⟨_, _, own, own', same⟩
  · rw [own, own']
    exact .error (congrArg FeeError.chargeNotFound keys)
  · rw [own, own']
    refine .ok ⟨same, congrArg Catalog.mk ?_⟩
    rw [map_eraseP, map_eraseP, keys, Catalog.mk.inj h]

end Catalog

end SchoolFees

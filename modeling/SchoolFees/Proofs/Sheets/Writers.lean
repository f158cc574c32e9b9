/-
Who writes the sheets, and what that says of them.

Sheets come from two sides.  Managers write them entry by entry, each under its own
validator, and whole catalogs that were built elsewhere are put in place.  `Written`
follows a store through both, from the empty one on; calls that fail belong to the
history like any others.

Two of the writers do not check what they write in the way it is stored.  A new sheet of
defaults is not checked at all, and an update is checked under the key that was asked
for and stored under the key that was there.  Neither does harm: the defaults are good,
and what a validator ensures of a key and of a table it ensures apart
(`Effect.holds`).  So whatever all validators ensure holds of every sheet
(`Written.holds`).
-/
import SchoolFees.Proofs.Pricing.Validity
import SchoolFees.Proofs.Sheets.Effects

namespace SchoolFees

/-- The validators that come with the library and refuse something. -/
def Validator.Supplied (accepts : Validator) : Prop := accepts = .standard ∨ accepts = .strict

/-- The catalog was built from a list of entries, or is the standard one. -/
def Catalog.Built (c : Catalog) : Prop := c = .standard ∨ ∃ entries, ofEntries entries = .ok c

/-- The manager that is called has one of these validators. -/
def ManagerCall.CheckedBy (validators : Validator → Prop) : ManagerCall → Prop
  | .catalog _ => True
  | .requiredCatalog _ => True
  | .changeSheet accepts _ _ => validators accepts

/-- A history of calls to managers with these validators and of puts of these catalogs leads from
the empty store to this one. -/
inductive SheetStore.Written (validators : Validator → Prop) (puts : Catalog → Prop) :
    SheetStore → Prop
  | empty : Written validators puts .empty
  | call {s : SheetStore} (earlier : Written validators puts s) (call : ManagerCall)
      (checked : call.CheckedBy validators) : Written validators puts (s.tryCall call).2
  | put {s s' : SheetStore} (earlier : Written validators puts s) (owner : Owner) (sheet : Catalog)
      (built : puts sheet) (told : s.write owner sheet = .ok s') : Written validators puts s'

variable {keys : ChargeKey → Prop} {tables : TierTable → Prop} {validators : Validator → Prop}
  {puts : Catalog → Prop}

/-- A call leaves a good sheet behind where it found one, or none. -/
theorem ManagerCall.Effect.holds {call : ManagerCall} {sheet sheet' : Option Catalog}
    {answer : Except FeeError ChangeAnswer} (effect : call.Effect sheet answer sheet')
    (checked : call.CheckedBy fun accepts => accepts.Ensures keys tables)
    (standard : Catalog.Holds keys tables .standard) (holds : ∀ c ∈ sheet, c.Holds keys tables) :
    ∀ c ∈ sheet', c.Holds keys tables := by
  -- A missing sheet counts as an empty one.
  have present : (sheet.getD .empty).Holds keys tables := by
    cases sheet with
    | none => exact Catalog.holds_empty
    | some c => exact holds c rfl
  cases effect with
  | asked => exact holds
  | found => exact holds
  | missing => exact holds
  | kept => exact holds
  | seeded => rintro c ⟨⟩; exact standard
  | added h => rintro c ⟨⟩; exact Catalog.holds_add checked present h
  | notAdded h => exact holds
  | unaccepted h => exact holds
  | unsheeted accepted => exact holds
  | updated accepted h =>
    rintro c ⟨⟩
    exact Catalog.holds_update (checked _ accepted).2 (holds _ rfl) h
  | notUpdated accepted h => exact holds
  | deleted h => rintro c ⟨⟩; exact Catalog.holds_delete present h
  | notDeleted h => exact holds

namespace SheetStore

/-- Every sheet of the store has good keys and good tables only. -/
def Holds (keys : ChargeKey → Prop) (tables : TierTable → Prop) (s : SheetStore) : Prop :=
  ∀ owner, ∀ sheet ∈ s.sheets.get? owner, sheet.Holds keys tables

variable {sheets : Registry Owner Catalog} {s : SheetStore}

theorem holds_write {s' : SheetStore} {owner : Owner} {sheet : Catalog}
    (holds : s.Holds keys tables) (good : sheet.Holds keys tables)
    (h : s.write owner sheet = .ok s') : s'.Holds keys tables := by
  obtain ⟨-, rfl⟩ := write_eq_ok_iff.mp h
  intro other
  show ∀ c ∈ (s.sheets.set owner sheet).get? other, _
  rw [Registry.get?_set]
  by_cases own : other = owner
  · rw [if_pos own]
    rintro c ⟨⟩
    exact good
  · rw [if_neg own]
    exact holds other

theorem holds_tryCall {call : ManagerCall} (holds : (inMemory sheets).Holds keys tables)
    (checked : call.CheckedBy fun accepts => accepts.Ensures keys tables)
    (standard : Catalog.Holds keys tables .standard) :
    ((inMemory sheets).tryCall call).2.Holds keys tables := by
  rw [tryCall_inMemory]
  intro owner
  show ∀ sheet ∈ (sheets.put call.owner _).get? owner, _
  rw [Registry.get?_put]
  by_cases own : owner = call.owner
  · rw [if_pos own]
    exact (ManagerCall.effect_outcome call _).holds checked standard (holds call.owner)
  · rw [if_neg own]
    exact holds owner

/-- A run of calls is a history. -/
theorem Written.run {calls : List ManagerCall} (written : s.Written validators puts)
    (checked : ∀ call ∈ calls, call.CheckedBy validators) :
    (s.run calls).2.Written validators puts := by
  induction calls generalizing s with
  | nil => exact written
  | cons call rest ih =>
    obtain ⟨head, others⟩ := List.forall_mem_cons.mp checked
    exact ih (written.call call head) others

theorem Written.exists_inMemory (written : s.Written validators puts) :
    ∃ sheets, s = inMemory sheets := by
  induction written with
  | empty => exact ⟨∅, rfl⟩
  | call _ call _ ih =>
    obtain ⟨sheets, rfl⟩ := ih
    rw [tryCall_inMemory]
    exact ⟨_, rfl⟩
  | put _ owner sheet _ told ih =>
    obtain ⟨sheets, rfl⟩ := ih
    cases told
    exact ⟨sheets.set owner sheet, rfl⟩

/-- **What every writer ensures holds of every sheet.** -/
theorem Written.holds (written : s.Written validators puts)
    (ensures : ∀ accepts, validators accepts → accepts.Ensures keys tables)
    (standard : Catalog.Holds keys tables .standard)
    (built : ∀ sheet, puts sheet → sheet.Holds keys tables) : s.Holds keys tables := by
  induction written with
  | empty => exact nofun
  | call earlier call checked ih =>
    obtain ⟨sheets, rfl⟩ := earlier.exists_inMemory
    refine holds_tryCall ih ?_ standard
    cases call with
    | catalog owner => trivial
    | requiredCatalog owner => trivial
    | changeSheet accepts owner change => exact ensures accepts checked
  | put _ owner sheet wanted told ih => exact holds_write ih (built sheet wanted) told

end SheetStore

end SchoolFees

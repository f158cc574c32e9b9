/-
Changes to the sheet of one owner.

A change runs in two steps: `prepare` looks the change over, reads the sheet of its
owner and decides what becomes of it, and `commit` writes the sheet that was decided
on.  What is decided depends on the owner's sheet alone (`revise`), so a change that
fails writes nothing, and one that succeeds writes one sheet.  Between its two steps a
change relies on nobody else writing the sheet it has read.
-/
import SchoolFees.Sheets.Store

namespace SchoolFees

/-- What may be done to the sheet of an owner. -/
inductive SheetChange where
  /-- Gives an owner without a sheet the standard one. -/
  | ensureDefaults
  /-- Adds a charge, to an empty sheet if there is none. -/
  | addCharge (entry : Entry)
  /-- Replaces the tiers of a charge on an existing sheet. -/
  | updateCharge (entry : Entry)
  /-- Takes a charge off. -/
  | deleteCharge (key : ChargeKey)
deriving DecidableEq

/-- What a change answers. -/
inductive ChangeAnswer where
  | sheet (catalog : Catalog)
  | done
  | removed (entry : Entry)
deriving DecidableEq

/-- What a change decided: its answer, and the sheet to write, if it writes one. -/
structure Revision where
  answer : ChangeAnswer
  sheet : Option Catalog
deriving DecidableEq

namespace SheetChange

/-- What a change asks of its input before any sheet is read. -/
def screen (accepts : Validator) : SheetChange → Except FeeError Unit
  | .updateCharge entry => accepts entry
  | _ => .ok ()

/-- What becomes of an owner's sheet. -/
def revise (accepts : Validator) (owner : Owner) :
    SheetChange → Option Catalog → Except FeeError Revision
  | .ensureDefaults, some sheet => .ok ⟨.sheet sheet, none⟩
  | .ensureDefaults, none => .ok ⟨.sheet .standard, some .standard⟩
  | .addCharge entry, sheet => do
    let revised ← (sheet.getD .empty).add accepts entry
    return ⟨.done, some revised⟩
  | .updateCharge _, none => .error (.storage (.noSheet owner))
  | .updateCharge entry, some sheet => do
    let revised ← sheet.update entry
    return ⟨.done, some revised⟩
  | .deleteCharge key, sheet => do
    let (entry, revised) ← (sheet.getD .empty).delete key
    return ⟨.removed entry, some revised⟩

end SheetChange

/-- A change that has been decided on and not yet written. -/
structure PendingChange where
  owner : Owner
  revision : Revision
deriving DecidableEq

namespace SheetStore

/-- The first step of a change: read the sheet of the owner and decide. -/
def prepare (s : SheetStore) (accepts : Validator) (owner : Owner) (change : SheetChange) :
    Except FeeError PendingChange := do
  change.screen accepts
  let sheet ← s.read owner
  let revision ← change.revise accepts owner sheet
  return ⟨owner, revision⟩

/-- The second step of a change: write the sheet that was decided on. -/
def commit (s : SheetStore) (pending : PendingChange) : Except FeeError SheetStore :=
  match pending.revision.sheet with
  | none => .ok s
  | some sheet => s.write pending.owner sheet

/-- A change from start to end. -/
def change (s : SheetStore) (accepts : Validator) (owner : Owner) (change : SheetChange) :
    Except FeeError (ChangeAnswer × SheetStore) := do
  let pending ← s.prepare accepts owner change
  let s' ← s.commit pending
  return (pending.revision.answer, s')

end SheetStore

end SchoolFees

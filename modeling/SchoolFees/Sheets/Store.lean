/-
The store of rate sheets.

The store keeps one catalog for each owner that has a sheet; a sheet may be empty,
which is not the same as having none.  Reading or writing the sheet of an owner can
fail, which is what the two lists of owners are for.
-/
import SchoolFees.Pricing.Catalog
import SchoolFees.Registry

namespace SchoolFees

/-- The sheets of all owners. -/
structure SheetStore where
  sheets : Registry Owner Catalog
  /-- The owners whose sheet cannot be read. -/
  unreadable : List Owner
  /-- The owners whose sheet cannot be written. -/
  unwritable : List Owner

namespace SheetStore

/-- A store without sheets, which never fails. -/
def empty : SheetStore := ⟨∅, [], []⟩

instance : Inhabited SheetStore := ⟨empty⟩

/-- The sheet of an owner, if it has one. -/
def read (s : SheetStore) (owner : Owner) : Except FeeError (Option Catalog) :=
  if owner ∈ s.unreadable then .error (.storage (.readRefused owner))
  else .ok (s.sheets.get? owner)

/-- Gives an owner a sheet, in place of any earlier one. -/
def write (s : SheetStore) (owner : Owner) (sheet : Catalog) : Except FeeError SheetStore :=
  if owner ∈ s.unwritable then .error (.storage (.writeRefused owner))
  else .ok { s with sheets := s.sheets.set owner sheet }

/-- A sheet is written where the owner does not refuse it, and nothing else changes. -/
theorem write_eq_ok_iff {s s' : SheetStore} {owner : Owner} {sheet : Catalog} :
    s.write owner sheet = .ok s' ↔
      owner ∉ s.unwritable ∧ s' = { s with sheets := s.sheets.set owner sheet } := by
  unfold write
  split
  · rename_i refused
    simp [refused]
  · rename_i allowed
    simp [allowed, eq_comm]

/-- A sheet that was written is the owner's sheet. -/
theorem get?_of_write {s s' : SheetStore} {owner : Owner} {sheet : Catalog}
    (h : s.write owner sheet = .ok s') : s'.sheets.get? owner = some sheet := by
  obtain ⟨-, rfl⟩ := write_eq_ok_iff.mp h
  simp

/-- Throws every sheet away. -/
def clear (s : SheetStore) : SheetStore := { s with sheets := ∅ }

/-- The catalog of an owner, empty when there is no sheet. -/
def catalog (s : SheetStore) (owner : Owner) : Except FeeError Catalog :=
  (s.read owner).map (·.getD .empty)

/-- The catalog of an owner, which must have a sheet. -/
def requiredCatalog (s : SheetStore) (owner : Owner) : Except FeeError Catalog := do
  match ← s.read owner with
  | some sheet => .ok sheet
  | none => .error (.storage (.noSheet owner))

end SheetStore

end SchoolFees

/-
Registries: the latest value under each key.

A registry is the function from keys to values that it represents, so two registries
that answer alike are equal.
-/

namespace SchoolFees

/-- The value registered under each key, if there is one. -/
def Registry (κ α : Type) : Type := κ → Option α

namespace Registry

variable {κ α : Type}

/-- Nothing is registered. -/
def empty : Registry κ α := fun _ => none

instance : EmptyCollection (Registry κ α) := ⟨empty⟩

instance : Inhabited (Registry κ α) := ⟨empty⟩

/-- The value under a key. -/
def get? (r : Registry κ α) (key : κ) : Option α := r key

/-- Registers a value, in place of an earlier one under the same key. -/
def set [DecidableEq κ] (r : Registry κ α) (key : κ) (value : α) : Registry κ α :=
  fun k => if k = key then some value else r.get? k

@[simp] theorem get?_empty (key : κ) : (∅ : Registry κ α).get? key = none := rfl

@[simp] theorem get?_set [DecidableEq κ] (r : Registry κ α) (key k : κ) (value : α) :
    (r.set key value).get? k = if k = key then some value else r.get? k := rfl

@[ext] theorem ext {r s : Registry κ α} (h : ∀ key, r.get? key = s.get? key) : r = s := funext h

end Registry

end SchoolFees

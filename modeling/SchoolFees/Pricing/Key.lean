/-
Charge keys: a platform with a way to pay on it.

Two keys are the same key when both parts agree up to the case of ASCII letters.  The
mode `others` stands for every mode of its platform that has no charge of its own.
-/
import SchoolFees.Text

namespace SchoolFees

/-- What a charge is for. -/
structure ChargeKey where
  /-- The platform that takes the payment. -/
  platform : String
  /-- The way of paying on it. -/
  mode : String
deriving DecidableEq

namespace ChargeKey

/-- The mode that stands for all other modes of a platform. -/
def others : String := "Others"

/-- The key of the same platform's remaining modes. -/
def fallback (k : ChargeKey) : ChargeKey := { k with mode := others }

/-- The key with its ASCII letters in lower case. -/
def folded (k : ChargeKey) : ChargeKey := ⟨Text.foldCase k.platform, Text.foldCase k.mode⟩

/-- The same key up to the case of ASCII letters. -/
def same (k l : ChargeKey) : Bool :=
  Text.sameFold k.platform l.platform && Text.sameFold k.mode l.mode

instance : ToString ChargeKey := ⟨fun k => s!"{k.platform}/{k.mode}"⟩

/-- Keys are the same when they fold to one key. -/
theorem same_iff {k l : ChargeKey} : k.same l = true ↔ k.folded = l.folded := by
  simp [same, folded, Text.sameFold_iff]

theorem same_refl (k : ChargeKey) : k.same k = true := same_iff.2 rfl

/-- A key that is folded already stays as it is. -/
theorem folded_folded (k : ChargeKey) : k.folded.folded = k.folded := by
  simp [folded, Text.foldCase_foldCase]

end ChargeKey

end SchoolFees

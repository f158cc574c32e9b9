/-
Spellings of a key.

Two texts are spellings of one another when they are equal character by character, except
that a letter of ASCII may stand in either case (`Respelled`).  Blanks, digits and the
letters of other alphabets have to be the same.  Keys are told apart in two ways, by
comparing them during a scan and by folding them before they are registered, and both
ways tell apart the keys that are no spellings of one another, and no others
(`ChargeKey.folded_eq_iff`).

Whether a text is blank does not depend on its spelling, because no letter is a blank.
-/
import Mathlib.Data.List.Forall2
import SchoolFees.Pricing.Key

namespace SchoolFees

namespace Text

variable {a b : Char} {s t : String}

/-- The same character, or the same letter of ASCII in the other case. -/
def SameLetter (a b : Char) : Prop :=
  a = b ∨ a.isUpper ∧ b.toNat = a.toNat + 32 ∨ b.isUpper ∧ a.toNat = b.toNat + 32

/-- The two texts differ in the case of ASCII letters at most. -/
def Respelled (s t : String) : Prop := List.Forall₂ SameLetter s.toList t.toList

/-! ### Letters -/

theorem isUpper_iff : a.isUpper = true ↔ 65 ≤ a.toNat ∧ a.toNat ≤ 90 := by
  refine decide_eq_true_iff.trans ?_
  rw [ge_iff_le, UInt32.le_iff_toNat_le, UInt32.le_iff_toNat_le]
  exact Iff.rfl

theorem toLower_of_not_isUpper (h : ¬ a.isUpper = true) : a.toLower = a :=
  dif_neg fun bounds => h (decide_eq_true bounds)

theorem toNat_toLower (a : Char) :
    a.toLower.toNat = if a.isUpper then a.toNat + 32 else a.toNat := by
  by_cases upper : a.isUpper
  · have bounds := isUpper_iff.mp upper
    have raised : a.toLower = ⟨a.val + 32, _⟩ := dif_pos (of_decide_eq_true upper)
    have small : a.val.toNat + 32 < 2 ^ 32 := by
      have : a.val.toNat = a.toNat := rfl
      omega
    rw [if_pos upper, raised]
    show (a.val + 32).toNat = a.val.toNat + 32
    rw [UInt32.toNat_add]
    exact Nat.mod_eq_of_lt small
  · rw [if_neg upper, toLower_of_not_isUpper upper]

/-- Folding makes the cases of a letter equal, and no other characters. -/
theorem toLower_eq_iff : a.toLower = b.toLower ↔ SameLetter a b := by
  rw [← Char.toNat_inj, toNat_toLower, toNat_toLower, SameLetter, ← Char.toNat_inj]
  by_cases ha : a.isUpper
  · have bounds := isUpper_iff.mp ha
    by_cases hb : b.isUpper
    · have bounds' := isUpper_iff.mp hb
      rw [if_pos ha, if_pos hb]
      simp only [ha, hb, true_and]
      omega
    · have bounds' := mt isUpper_iff.mpr hb
      rw [if_pos ha, if_neg hb]
      simp only [ha, hb, true_and, Bool.false_eq_true, false_and, or_false]
      omega
  · have bounds := mt isUpper_iff.mpr ha
    by_cases hb : b.isUpper
    · have bounds' := isUpper_iff.mp hb
      rw [if_neg ha, if_pos hb]
      simp only [ha, hb, true_and, Bool.false_eq_true, false_and, false_or]
      omega
    · rw [if_neg ha, if_neg hb]
      simp only [ha, hb, Bool.false_eq_true, false_and, or_false]

/-- No letter is a blank, nor is any other character between the letters. -/
theorem isBlank_eq_false (h : 65 ≤ a.toNat ∧ a.toNat ≤ 122) : isBlank a = false := by
  rw [← Bool.not_eq_true]
  intro blank
  simp only [isBlank, Bool.or_eq_true, Bool.and_eq_true, decide_eq_true_eq, beq_iff_eq] at blank
  omega

theorem isBlank_toLower (a : Char) : isBlank a.toLower = isBlank a := by
  by_cases upper : a.isUpper
  · have bounds := isUpper_iff.mp upper
    have lower : 65 ≤ a.toLower.toNat ∧ a.toLower.toNat ≤ 122 := by
      rw [toNat_toLower, if_pos upper]
      omega
    rw [isBlank_eq_false lower, isBlank_eq_false (by omega)]
  · rw [toLower_of_not_isUpper upper]

/-! ### Texts -/

/-- **Two texts fold to one when they are spellings of one another.** -/
theorem foldCase_eq_iff : foldCase s = foldCase t ↔ Respelled s t := by
  rw [foldCase, foldCase, String.ofList_inj, ← List.forall₂_eq_eq_eq, List.forall₂_map_left_iff,
    List.forall₂_map_right_iff]
  simp only [toLower_eq_iff]
  exact Iff.rfl

theorem isAllBlank_foldCase (s : String) : isAllBlank (foldCase s) = isAllBlank s := by
  unfold isAllBlank foldCase
  rw [String.toList_ofList, List.all_map]
  exact congrArg s.toList.all (funext isBlank_toLower)

end Text

namespace ChargeKey

variable {k l : ChargeKey}

/-- Platform and mode differ in the case of ASCII letters at most. -/
def Respelled (k l : ChargeKey) : Prop :=
  Text.Respelled k.platform l.platform ∧ Text.Respelled k.mode l.mode

theorem folded_eq_iff : k.folded = l.folded ↔ k.Respelled l := by
  simp only [folded, ChargeKey.mk.injEq, Text.foldCase_eq_iff]
  exact Iff.rfl

/-- Both spellings of a key have the same key of remaining modes, up to their spelling. -/
theorem folded_fallback_congr (h : k.folded = l.folded) :
    k.fallback.folded = l.fallback.folded := by
  have platform : Text.foldCase k.platform = Text.foldCase l.platform :=
    congrArg ChargeKey.platform h
  simp only [folded, fallback, platform]

end ChargeKey

end SchoolFees

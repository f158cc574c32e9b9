/-
Rules for names and keys in text.

Two rules run through the library.  Blanks at either end of a key are not part of it,
and a text of blanks alone counts as empty; *blank* is the Unicode property of white
space, `isBlank`.  Where the case of a key does not matter, it is the case of the
ASCII letters alone: other letters and all blanks stay significant.
-/
import SchoolFees.Powers

namespace SchoolFees

namespace Text

/-- The characters of white space, by the Unicode property of that name. -/
def isBlank (c : Char) : Bool :=
  let n := c.toNat
  (0x09 ≤ n && n ≤ 0x0D) || n == 0x20 || n == 0x85 || n == 0xA0 || n == 0x1680 ||
    (0x2000 ≤ n && n ≤ 0x200A) || n == 0x2028 || n == 0x2029 || n == 0x202F || n == 0x205F ||
    n == 0x3000

/-- Leaves out the blanks in front. -/
def dropBlanks (cs : List Char) : List Char := cs.dropWhile isBlank

/-- Leaves out the blanks at both ends. -/
def trim (s : String) : String :=
  String.ofList (dropBlanks (dropBlanks s.toList).reverse).reverse

/-- Holds nothing but blanks. -/
def isAllBlank (s : String) : Bool := s.toList.all isBlank

/-- The text with its ASCII letters in lower case. -/
def foldCase (s : String) : String := String.ofList (s.toList.map Char.toLower)

/-- The same text up to the case of ASCII letters. -/
def sameFold (s t : String) : Bool := foldCase s == foldCase t

theorem toLower_toLower (c : Char) : c.toLower.toLower = c.toLower := by
  by_cases h : c.val ≥ 'A'.val ∧ c.val ≤ 'Z'.val
  · have small : c.toNat < 128 := Nat.lt_of_le_of_lt (UInt32.le_iff_toNat_le.1 h.2) (by decide)
    have ascii : ∀ n < 128, (Char.ofNat n).toLower.toLower = (Char.ofNat n).toLower := by
      decide +kernel
    have folded := ascii c.toNat small
    rwa [Char.ofNat_toNat] at folded
  · have : c.toLower = c := dif_neg h
    rw [this, this]

/-- Folding twice is folding once. -/
theorem foldCase_foldCase (s : String) : foldCase (foldCase s) = foldCase s := by
  rw [foldCase, foldCase, String.toList_ofList, List.map_map]
  exact congrArg (fun f => String.ofList (s.toList.map f)) (funext toLower_toLower)

theorem sameFold_iff {s t : String} : sameFold s t = true ↔ foldCase s = foldCase t := by
  simp [sameFold]

/-- A key as it counts: without the blanks around it, and only if something is left. -/
def keyed (key : Option String) : Option String := (key.map trim).filter (· ≠ "")

theorem keyed_eq_some_iff {key : Option String} {k : String} :
    keyed key = some k ↔ key.map trim = some k ∧ k ≠ "" := by
  rw [keyed, Option.filter_eq_some_iff, decide_eq_true_eq]

/-! ### Numbers in text -/

/-- Numbers that fit a machine word are below this. -/
def wordBound : Nat := 2 ^ (64 : Nat)

/-- The decimal digits of `n`, with zeros in front up to `width` digits. -/
def padded (width n : Nat) : List Char :=
  let digits := Nat.toDigits 10 n
  List.replicate (width - digits.length) '0' ++ digits

/-- Reads a number of at least one and at most `atMost` digits off the front. -/
def number? (atMost : Nat) (cs : List Char) : Option (Nat × List Char) :=
  let digits := (cs.take atMost).takeWhile Char.isDigit
  if digits.isEmpty then none else some (Nat.ofDigitChars 10 digits 0, cs.drop digits.length)

/-- Takes the character `c` off the front. -/
def char? (c : Char) : List Char → Option (List Char)
  | [] => none
  | x :: rest => if x = c then some rest else none

/-- A number that fits a machine word: an optional plus sign and ASCII digits alone. -/
def word? (s : String) : Option Nat :=
  let digits := match s.toList with
    | '+' :: rest => rest
    | cs => cs
  if !digits.isEmpty && digits.all Char.isDigit then
    let n := Nat.ofDigitChars 10 digits 0
    if n < wordBound then some n else none
  else none

end Text

end SchoolFees

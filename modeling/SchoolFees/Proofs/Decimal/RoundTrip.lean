/-
What is read of a written amount.

A number is written as digits, with a point among them or none, and a power of ten behind
them or none.  `Shows` says which digits a text shows and how many of them stand behind
its point, whatever the power; reading such a text gives the number of the digits, at the
places less the power (`ofChars?_of_shows`).  Each of the forms that an amount can be
written in shows its digits that way, with zeros in front or behind.

So an amount is read back as it was written, pair for pair, but for two things that the
text does not tell: the scale of a zero, and zeros that were left out at the end of the
coefficient and are written out (`ofText?_toText`).  Neither changes what the amount is
worth.
-/
import Mathlib.Data.List.TakeWhile
import SchoolFees.Decimal.Text
import SchoolFees.Proofs.Decimal.Worth

namespace SchoolFees

namespace Decimal

variable {cs ds whole fraction power : List Char} {c : Char} {places n : Nat} {shift : Int}

/-! ### Digits -/

/-- All of these are digits. -/
def AreDigits (cs : List Char) : Prop := ∀ c ∈ cs, c.isDigit = true

theorem ne_of_isDigit {mark : Char} (h : c.isDigit = true) (other : mark.isDigit = false) :
    c ≠ mark := by
  rintro rfl
  rw [h] at other
  cases other

theorem not_isExponentMark_of_isDigit (h : c.isDigit = true) : isExponentMark c = false := by
  simp [isExponentMark, ne_of_isDigit h (show 'e'.isDigit = false by decide),
    ne_of_isDigit h (show 'E'.isDigit = false by decide)]

theorem areDigits_append : AreDigits (cs ++ ds) ↔ AreDigits cs ∧ AreDigits ds :=
  List.forall_mem_append

theorem areDigits_toDigits (n : Nat) : AreDigits (Nat.toDigits 10 n) := fun _ h =>
  Nat.isDigit_of_mem_toDigits (by decide) (by decide) h

theorem areDigits_zeros (n : Nat) : AreDigits (List.replicate n '0') := by
  intro c h
  rw [List.eq_of_mem_replicate h]
  decide

theorem filter_underscores (h : AreDigits cs) : cs.filter (· != '_') = cs := by
  rw [List.filter_eq_self]
  intro c hc
  simp [ne_of_isDigit (h c hc) (show '_'.isDigit = false by decide)]

/-- Digits have no sign in front. -/
theorem splitSign_of_areDigits (h : AreDigits cs) : splitSign cs = (false, cs) := by
  unfold splitSign
  split
  · exact absurd (h '-' (by simp)) (by decide)
  · exact absurd (h '+' (by simp)) (by decide)
  · rfl

/-- A sign in front of digits, if the number is below zero. -/
def signChars (negative : Bool) : List Char := if negative then ['-'] else []

theorem splitSign_signed (negative : Bool) (h : AreDigits cs) :
    splitSign (signChars negative ++ cs) = (negative, cs) := by
  cases negative with
  | false => exact splitSign_of_areDigits h
  | true => rfl

/-! ### Reading -/

theorem exponentOfChars?_toDigits (n : Nat) :
    exponentOfChars? ('-' :: Nat.toDigits 10 n) = some (-n : Int) ∧
      exponentOfChars? ('+' :: Nat.toDigits 10 n) = some (n : Int) := by
  have areDigits : (Nat.toDigits 10 n).all Char.isDigit = true :=
    List.all_eq_true.mpr (areDigits_toDigits n)
  have nonempty : (Nat.toDigits 10 n).isEmpty = false := by simp [Nat.toDigits_ne_nil]
  simp [exponentOfChars?, splitSign, signed, areDigits, nonempty, Nat.ofDigitChars_ten_toDigits]

theorem coeffOfChars?_signed (negative : Bool) (h : AreDigits ds) (nonempty : ds ≠ []) :
    coeffOfChars? (signChars negative ++ ds) = some (signed negative ds) := by
  obtain ⟨first, rest, rfl⟩ := List.exists_cons_of_ne_nil nonempty
  have head : first.isDigit = true := h first (by simp)
  have allDigits : ((first :: rest).all fun c => c.isDigit || c == '_') = true :=
    List.all_eq_true.mpr fun c hc => by simp [h c hc]
  unfold coeffOfChars?
  rw [splitSign_signed negative h]
  dsimp only
  rw [allDigits, filter_underscores h]
  simp [head]

/-- The text shows these digits, of which so many stand behind its point. -/
inductive Shows : List Char → List Char → Nat → Prop
  | whole {ds : List Char} (nonempty : ds ≠ []) (digits : AreDigits ds) : Shows ds ds 0
  | pointed {whole fraction : List Char} (nonempty : whole ≠ [])
      (digits : AreDigits (whole ++ fraction)) :
      Shows (whole ++ '.' :: fraction) (whole ++ fraction) fraction.length

/-- The text is that of a power of ten, or nothing at all. -/
inductive Scales : List Char → Int → Prop
  | unscaled : Scales [] 0
  | scaled {mark : Char} {power : List Char} {shift : Int} (marked : isExponentMark mark = true)
      (read : exponentOfChars? power = some shift) : Scales (mark :: power) shift

theorem Shows.ne_nil (h : Shows cs ds places) : ds ≠ [] := by
  cases h with
  | whole nonempty digits => exact nonempty
  | pointed nonempty digits => simp [nonempty]

theorem Shows.areDigits (h : Shows cs ds places) : AreDigits ds := by
  cases h with
  | whole nonempty digits => exact digits
  | pointed nonempty digits => exact digits

/-- Nothing before the power of ten is its mark. -/
theorem Shows.unmarked (h : Shows cs ds places) (negative : Bool) :
    ∀ c ∈ signChars negative ++ cs, (!isExponentMark c) = true := by
  have sign : ∀ c ∈ signChars negative, (!isExponentMark c) = true := by
    cases negative with
    | false => exact nofun
    | true => simp [signChars, isExponentMark]
  have digits : ∀ {l : List Char}, AreDigits l → ∀ c ∈ l, (!isExponentMark c) = true :=
    fun h c hc => by simp [not_isExponentMark_of_isDigit (h c hc)]
  rw [List.forall_mem_append]
  refine ⟨sign, ?_⟩
  cases h with
  | whole nonempty areDigits => exact digits areDigits
  | pointed nonempty areDigits =>
    obtain ⟨first, last⟩ := areDigits_append.mp areDigits
    rw [List.forall_mem_append, List.forall_mem_cons]
    exact ⟨digits first, by decide, digits last⟩

theorem Scales.takeWhile (h : Scales power shift) :
    power.takeWhile (!isExponentMark ·) = [] ∧ power.dropWhile (!isExponentMark ·) = power := by
  cases h with
  | unscaled => exact ⟨rfl, rfl⟩
  | scaled marked read => simp [marked]

/-- What stands before the point and behind it. -/
theorem Shows.split (h : Shows cs ds places) (negative : Bool) :
    ∃ fraction, ((signChars negative ++ cs).dropWhile (· != '.')).drop 1 = fraction ∧
      fraction.length = places ∧ AreDigits fraction ∧
      (signChars negative ++ cs).takeWhile (· != '.') ++ fraction = signChars negative ++ ds := by
  have sign : ∀ c ∈ signChars negative, (c != '.') = true := by
    cases negative with
    | false => exact nofun
    | true => simp [signChars]
  have digits : ∀ {l : List Char}, AreDigits l → ∀ c ∈ l, (c != '.') = true :=
    fun h c hc => by simp [ne_of_isDigit (h c hc) (show '.'.isDigit = false by decide)]
  cases h with
  | whole nonempty areDigits =>
    have front := List.forall_mem_append.mpr ⟨sign, digits areDigits⟩
    refine ⟨[], ?_, rfl, nofun, ?_⟩
    · rw [List.dropWhile_eq_nil_iff.mpr front]
      rfl
    · rw [List.append_nil, List.takeWhile_eq_self_iff.mpr front]
  | @pointed whole fraction nonempty areDigits =>
    obtain ⟨first, last⟩ := areDigits_append.mp areDigits
    have front := List.forall_mem_append.mpr ⟨sign, digits first⟩
    refine ⟨fraction, ?_, rfl, last, ?_⟩
    · rw [← List.append_assoc, List.dropWhile_append_of_pos front]
      rfl
    · rw [← List.append_assoc, List.takeWhile_append_of_pos front]
      simp

/-- **A text is read as the number of its digits, at its places less its power of ten.** -/
theorem ofChars?_of_shows (negative : Bool) (shows : Shows cs ds places)
    (scales : Scales power shift) (inRange : ScaleInRange (places - shift)) :
    ofChars? (signChars negative ++ cs ++ power) =
      some ⟨signed negative ds, places - shift⟩ := by
  obtain ⟨fraction, behind, length, digits, before⟩ := shows.split negative
  have base : (signChars negative ++ cs ++ power).takeWhile (!isExponentMark ·) =
      signChars negative ++ cs := by
    rw [List.takeWhile_append_of_pos (shows.unmarked negative), scales.takeWhile.1, List.append_nil]
  have rest : (signChars negative ++ cs ++ power).dropWhile (!isExponentMark ·) = power := by
    rw [List.dropWhile_append_of_pos (shows.unmarked negative), scales.takeWhile.2]
  have coeff := coeffOfChars?_signed negative shows.areDigits shows.ne_nil
  unfold ofChars?
  dsimp only
  rw [base, rest, behind, before, coeff, filter_underscores digits, length]
  cases scales with
  | unscaled =>
    refine Option.bind_eq_some_iff.mpr ⟨0, rfl, Option.bind_eq_some_iff.mpr ⟨_, rfl, ?_⟩⟩
    rw [if_pos inRange]
  | scaled marked read =>
    refine Option.bind_eq_some_iff.mpr ⟨shift, read, Option.bind_eq_some_iff.mpr ⟨_, rfl, ?_⟩⟩
    rw [if_pos inRange]

/-! ### Writing -/

theorem ofDigitChars_zeros (n : Nat) (ds : List Char) :
    Nat.ofDigitChars 10 (List.replicate n '0' ++ ds) 0 = Nat.ofDigitChars 10 ds 0 := by
  rw [Nat.ofDigitChars_append, Nat.ofDigitChars_replicate_zero, Nat.mul_zero]

/-- Zeros behind the digits of a number multiply it out. -/
theorem ofDigitChars_append_zeros (n k : Nat) :
    Nat.ofDigitChars 10 (Nat.toDigits 10 n ++ List.replicate k '0') 0 = n * 10 ^ k := by
  rw [Nat.ofDigitChars_append, Nat.ofDigitChars_ten_toDigits, Nat.ofDigitChars_replicate_zero,
    Nat.mul_comm]

/-- Digits with the point anywhere among them or in front show themselves, maybe behind zeros. -/
theorem shows_pointed (digits : AreDigits ds) (nonempty : ds ≠ []) (places : Nat) :
    ∃ zeros, Shows (pointed ds places) (List.replicate zeros '0' ++ ds) places := by
  unfold pointed
  by_cases among : places < ds.length
  · rw [if_pos among]
    refine ⟨0, ?_⟩
    have whole : ds.take (ds.length - places) ≠ [] := by
      rw [ne_eq, List.take_eq_nil_iff]
      rintro (nothing | nothing)
      · omega
      · exact nonempty nothing
    have joined := List.take_append_drop (ds.length - places) ds
    have shows := Shows.pointed whole (joined.symm ▸ digits)
    rw [joined, List.length_drop, Nat.sub_sub_self among.le] at shows
    exact shows
  · rw [if_neg among]
    refine ⟨places - ds.length + 1, ?_⟩
    have digits' := areDigits_append.mpr ⟨areDigits_zeros (places - ds.length + 1), digits⟩
    have shows : Shows (['0'] ++ '.' :: (List.replicate (places - ds.length) '0' ++ ds)) _ _ :=
      .pointed (by simp) digits'
    have length : (List.replicate (places - ds.length) '0' ++ ds).length = places := by
      rw [List.length_append, List.length_replicate]
      omega
    rw [length] at shows
    exact shows

theorem shows_leading (digits : AreDigits ds) (nonempty : ds ≠ []) :
    ∃ zeros, Shows (leading ds) (List.replicate zeros '0' ++ ds) (ds.length - 1) := by
  unfold leading
  by_cases single : ds.length ≤ 1
  · rw [if_pos single, Nat.sub_eq_zero_of_le single]
    exact ⟨0, .whole nonempty digits⟩
  · rw [if_neg single]
    exact shows_pointed digits nonempty (ds.length - 1)

/-- How many of the zeros that a scale leaves out at the end are written out. -/
def writtenOut (scale : Int) : Nat := if -scale ≤ impliedZeros then (-scale).toNat else 0

theorem writtenOut_of_pos {scale : Int} (h : 0 < scale) : writtenOut scale = 0 := by
  unfold writtenOut impliedZeros
  rw [if_pos (by omega)]
  omega

/-- The amount that is read of a written one.  A zero has lost its scale, and zeros that were left
out at the end are there, as far as they are written out. -/
def rewritten (d : Decimal) : Decimal := if d.coeff = 0 then 0 else d.widen (writtenOut d.scale)

/-- The forms that a number other than zero is written in: which digits it shows, and at what power
of ten. -/
theorem magnitude_cases (n : Nat) (scale : Int) :
    ∃ base power ds places shift, magnitudeChars (Nat.toDigits 10 n) scale = base ++ power ∧
      Shows base ds places ∧ Scales power shift ∧
      Nat.ofDigitChars 10 ds 0 = n * 10 ^ writtenOut scale ∧
      places - shift = scale + writtenOut scale := by
  have digits := areDigits_toDigits n
  have nonempty : Nat.toDigits 10 n ≠ [] := Nat.toDigits_ne_nil
  have length := List.length_pos_iff.mpr nonempty
  have value : ∀ zeros, Nat.ofDigitChars 10 (List.replicate zeros '0' ++ Nat.toDigits 10 n) 0 =
      n * 10 ^ 0 := fun zeros => by
    rw [ofDigitChars_zeros, Nat.ofDigitChars_ten_toDigits, Nat.pow_zero, Nat.mul_one]
  unfold magnitudeChars
  by_cases positive : 0 < scale
  · rw [if_pos positive, writtenOut_of_pos positive]
    by_cases small : leadingZeros < scale - (Nat.toDigits 10 n).length
    · rw [if_pos small]
      obtain ⟨zeros, shows⟩ := shows_leading digits nonempty
      have read := (exponentOfChars?_toDigits
        (scale + 1 - (Nat.toDigits 10 n).length).toNat).1
      refine ⟨_, _, _, _, _, rfl, shows, .scaled (by decide) read, value zeros, ?_⟩
      unfold leadingZeros at small
      omega
    · rw [if_neg small]
      obtain ⟨zeros, shows⟩ := shows_pointed digits nonempty scale.toNat
      refine ⟨_, [], _, _, _, (List.append_nil _).symm, shows, .unscaled, value zeros, ?_⟩
      omega
  · rw [if_neg positive]
    unfold writtenOut
    by_cases short : -scale ≤ impliedZeros
    · rw [if_pos short, if_pos short]
      have digits' := areDigits_append.mpr ⟨digits, areDigits_zeros (-scale).toNat⟩
      refine ⟨_, [], _, _, _, (List.append_nil _).symm, .whole (by simp [nonempty]) digits',
        .unscaled, ofDigitChars_append_zeros n _, ?_⟩
      omega
    · rw [if_neg short, if_neg short]
      have read := (exponentOfChars?_toDigits (-scale).toNat).2
      refine ⟨_, _, _, _, _, rfl, .whole nonempty digits, .scaled (by decide) read, value 0, ?_⟩
      omega

theorem signed_natAbs {k : Int} {zeros : Nat}
    (h : Nat.ofDigitChars 10 ds 0 = k.natAbs * 10 ^ zeros) :
    signed (decide (k < 0)) ds = k * 10 ^ zeros := by
  unfold signed
  rw [h]
  by_cases negative : k < 0
  · simp only [negative, decide_true, if_true]
    push_cast
    rw [abs_of_neg negative]
    ring
  · simp only [negative, decide_false, Bool.false_eq_true, if_false]
    push_cast
    rw [abs_of_nonneg (not_lt.mp negative)]

theorem toChars_of_ne_zero {d : Decimal} (nonzero : d.coeff ≠ 0) :
    d.toChars = signChars (decide (d.coeff < 0)) ++
      magnitudeChars (Nat.toDigits 10 d.coeff.natAbs) d.scale := by
  unfold toChars signChars
  rw [if_neg nonzero]
  by_cases negative : d.coeff < 0
  · simp [negative]
  · simp [negative]

/-- Writing zeros out brings a scale nearer to none. -/
theorem scaleInRange_writtenOut {scale : Int} (h : ScaleInRange scale) :
    ScaleInRange (scale + writtenOut scale) := by
  unfold ScaleInRange at h ⊢
  unfold writtenOut
  split
  · omega
  · omega

/-- **Every amount is read back from its text**, but for the zeros that a text does not tell. -/
theorem ofText?_toText (d : Decimal) (inRange : ScaleInRange d.scale) :
    ofText? d.toText = some d.rewritten := by
  unfold ofText? toText rewritten
  rw [String.toList_ofList]
  by_cases zero : d.coeff = 0
  · rw [toChars, if_pos zero, if_pos zero]
    decide +kernel
  · rw [if_neg zero, toChars_of_ne_zero zero]
    obtain ⟨base, power, ds, places, shift, form, shows, scales, size, scale⟩ :=
      magnitude_cases d.coeff.natAbs d.scale
    have range : ScaleInRange (places - shift) := scale.symm ▸ scaleInRange_writtenOut inRange
    rw [form, ← List.append_assoc, ofChars?_of_shows _ shows scales range, signed_natAbs size,
      scale]
    rfl

/-- What is read is worth what was written. -/
theorem rewritten_equiv (d : Decimal) : d.rewritten ≈ d := by
  rw [equiv_iff]
  unfold rewritten
  by_cases zero : d.coeff = 0
  · rw [if_pos zero, toRat_eq_zero_iff.mpr zero, toRat_ofNat, Nat.cast_zero]
  · rw [if_neg zero, toRat_widen]

end Decimal

end SchoolFees

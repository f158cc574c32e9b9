/-
Which texts are numbers.

Three readers are described here by the texts they accept, without their scans.  Trimming
leaves what stands between the blanks at both ends (`Text.trim_eq_iff`).  A machine word is
digits, with a plus sign in front or not, and must fit (`Text.word?_eq_some_iff`).  An amount
is a coefficient with a point in it or not, and a power of ten behind it or not
(`Decimal.ofText?_eq_some_iff`).

In each case the parts of a text can be told apart from the text alone: blanks end at the
first character that is none, no digit is a sign, and neither a sign nor a digit nor an
underscore is a point or the mark of a power.
-/
import SchoolFees.Proofs.Decimal.RoundTrip
import SchoolFees.Text

namespace SchoolFees

/-! ### Blanks -/

namespace Text

variable {raw text : String} {cs front : List Char}

/-- All of these are blanks. -/
def AreBlank (cs : List Char) : Prop := ∀ c ∈ cs, isBlank c = true

/-- The text is what stands between the blanks at both ends. -/
def Trims (raw text : String) : Prop :=
  ∃ front back, raw.toList = front ++ text.toList ++ back ∧ AreBlank front ∧ AreBlank back ∧
    (∀ c ∈ text.toList.head?, isBlank c = false) ∧ ∀ c ∈ text.toList.getLast?, isBlank c = false

theorem exists_dropBlanks (cs : List Char) :
    ∃ front, cs = front ++ dropBlanks cs ∧ AreBlank front ∧
      ∀ c ∈ (dropBlanks cs).head?, isBlank c = false := by
  refine ⟨cs.takeWhile isBlank, List.takeWhile_append_dropWhile.symm,
    fun c hc => List.mem_takeWhile_imp hc, ?_⟩
  intro c hc
  have ahead := List.head?_dropWhile_not isBlank cs
  rw [dropBlanks] at hc
  rw [Option.mem_def.mp hc] at ahead
  simpa using ahead

theorem dropBlanks_append (blank : AreBlank front) (ahead : ∀ c ∈ cs.head?, isBlank c = false) :
    dropBlanks (front ++ cs) = cs := by
  unfold dropBlanks
  rw [List.dropWhile_append_of_pos blank]
  cases cs with
  | nil => rfl
  | cons c rest => rw [List.dropWhile_cons_of_neg (by simp [ahead c rfl])]

/-- **Trimming takes the blanks at both ends off, and nothing else.** -/
theorem trim_eq_iff : trim raw = text ↔ Trims raw text := by
  refine ⟨?_, ?_⟩
  · rintro rfl
    obtain ⟨front, joined, blank, head⟩ := exists_dropBlanks raw.toList
    obtain ⟨back, joined', blank', last⟩ := exists_dropBlanks (dropBlanks raw.toList).reverse
    have middle : dropBlanks raw.toList = (trim raw).toList ++ back.reverse := by
      rw [trim, String.toList_ofList, ← List.reverse_append, ← joined', List.reverse_reverse]
    refine ⟨front, back.reverse, ?_, blank, fun c hc => blank' c (List.mem_reverse.mp hc), ?_, ?_⟩
    · rw [List.append_assoc, ← middle]
      exact joined
    · intro c hc
      refine head c ?_
      rw [middle, List.head?_append, Option.mem_def.mp hc]
      rfl
    · intro c hc
      refine last c ?_
      rw [trim, String.toList_ofList, List.getLast?_reverse] at hc
      exact hc
  · rintro ⟨front, back, joined, blank, blank', head, last⟩
    have inner : (dropBlanks (dropBlanks raw.toList).reverse).reverse = text.toList := by
      cases chars : text.toList with
      | nil =>
        -- Nothing is left of a text of blanks, wherever they are said to stand.
        have blanks : AreBlank (front ++ back) := List.forall_mem_append.mpr ⟨blank, blank'⟩
        have nothing : dropBlanks (front ++ back) = [] := List.dropWhile_eq_nil_iff.mpr blanks
        rw [joined, chars, List.append_nil, nothing]
        rfl
      | cons c rest =>
        rw [chars] at head last
        have ahead : ∀ x ∈ ((c :: rest) ++ back).head?, isBlank x = false := head
        have ahead' : ∀ x ∈ (c :: rest).reverse.head?, isBlank x = false := by
          rw [List.head?_reverse]
          exact last
        have blank'' : AreBlank back.reverse := fun x hx => blank' x (List.mem_reverse.mp hx)
        rw [joined, chars, List.append_assoc, dropBlanks_append blank ahead, List.reverse_append,
          dropBlanks_append blank'' ahead', List.reverse_reverse]
    rw [trim, inner, String.ofList_toList]

/-! ### Machine words -/

/-- The text is a number that fits a machine word, in digits, with a plus sign in front or not. -/
def SpellsWord (text : String) (n : Nat) : Prop :=
  ∃ sign digits, text.toList = sign ++ digits ∧ (sign = [] ∨ sign = ['+']) ∧ digits ≠ [] ∧
    Decimal.AreDigits digits ∧ Nat.ofDigitChars 10 digits 0 = n ∧ n < wordBound

/-- The text behind a plus sign, if there is one. -/
def unsigned : List Char → List Char
  | '+' :: rest => rest
  | cs => cs

theorem exists_plus (cs : List Char) :
    ∃ sign, (sign = [] ∨ sign = ['+']) ∧ cs = sign ++ unsigned cs := by
  unfold unsigned
  split
  · exact ⟨['+'], .inr rfl, rfl⟩
  · exact ⟨[], .inl rfl, rfl⟩

theorem unsigned_append {sign digits : List Char} (plus : sign = [] ∨ sign = ['+'])
    (areDigits : Decimal.AreDigits digits) : unsigned (sign ++ digits) = digits := by
  rcases plus with rfl | rfl
  · rw [List.nil_append]
    unfold unsigned
    split
    · exact absurd (areDigits '+' (by simp)) (by decide)
    · rfl
  · rfl

/-- **A text is read as a machine word when it spells one.** -/
theorem word?_eq_some_iff {n : Nat} : word? text = some n ↔ SpellsWord text n := by
  have read : word? text =
      if !(unsigned text.toList).isEmpty && (unsigned text.toList).all Char.isDigit then
        if Nat.ofDigitChars 10 (unsigned text.toList) 0 < wordBound then
          some (Nat.ofDigitChars 10 (unsigned text.toList) 0)
        else none
      else none := rfl
  rw [read]
  refine ⟨?_, ?_⟩
  · intro h
    obtain ⟨sign, plus, joined⟩ := exists_plus text.toList
    simp only [Option.ite_none_right_eq_some, Bool.and_eq_true, Bool.not_eq_true',
      List.isEmpty_eq_false_iff, List.all_eq_true, Option.some.injEq] at h
    obtain ⟨⟨nonempty, areDigits⟩, fits, rfl⟩ := h
    exact ⟨sign, _, joined, plus, nonempty, areDigits, rfl, fits⟩
  · rintro ⟨sign, digits, joined, plus, nonempty, areDigits, rfl, fits⟩
    rw [joined, unsigned_append plus areDigits, if_pos, if_pos fits]
    simp [nonempty, List.all_eq_true.mpr areDigits]

end Text

/-! ### Amounts -/

namespace Decimal

variable {cs base plain power sign rest digits : List Char} {first : Char} {negative : Bool}
  {places : Nat} {n shift : Int}

/-- The text is a sign, or none. -/
inductive Signs : List Char → Bool → Prop
  | none : Signs [] false
  | plus : Signs ['+'] false
  | minus : Signs ['-'] true

/-- The text is a power of ten, or none: a mark, and digits behind a sign or none. -/
inductive Exponent : List Char → Int → Prop
  | unscaled : Exponent [] 0
  | scaled {mark : Char} {sign digits : List Char} {negative : Bool}
      (marked : mark = 'e' ∨ mark = 'E') (signs : Signs sign negative) (nonempty : digits ≠ [])
      (areDigits : AreDigits digits) : Exponent (mark :: (sign ++ digits)) (signed negative digits)

/-- The text is a digit behind a sign or none, and further digits, in groups as they like. -/
inductive Coefficient : List Char → Int → Prop
  | grouped {sign rest : List Char} {negative : Bool} {first : Char} (signs : Signs sign negative)
      (isDigit : first.isDigit = true) (grouped : ∀ c ∈ rest, c.isDigit = true ∨ c = '_') :
      Coefficient (sign ++ first :: rest) (signed negative ((first :: rest).filter (· != '_')))

/-- The text without its point, and how many places stand behind it. -/
inductive Pointed : List Char → List Char → Nat → Prop
  | whole {cs : List Char} (unpointed : '.' ∉ cs) : Pointed cs cs 0
  | pointed {whole fraction : List Char} (unpointed : '.' ∉ whole) :
      Pointed (whole ++ '.' :: fraction) (whole ++ fraction) (fraction.filter (· != '_')).length

/-- The text is written by the rules for amounts, and this is the amount. -/
inductive Spells (text : String) : Decimal → Prop
  | amount {base plain power : List Char} {places : Nat} {coeff shift : Int}
      (joined : text.toList = base ++ power) (pointed : Pointed base plain places)
      (coefficient : Coefficient plain coeff) (exponent : Exponent power shift)
      (inRange : ScaleInRange (places - shift)) : Spells text ⟨coeff, places - shift⟩

/-! #### The parts of a text -/

theorem exists_signs (cs : List Char) :
    ∃ sign, Signs sign (splitSign cs).1 ∧ cs = sign ++ (splitSign cs).2 := by
  unfold splitSign
  split
  · exact ⟨['-'], .minus, rfl⟩
  · exact ⟨['+'], .plus, rfl⟩
  · exact ⟨[], .none, rfl⟩

/-- A sign in front of a digit is taken off. -/
theorem splitSign_of_signs (signs : Signs sign negative) (isDigit : first.isDigit = true) :
    splitSign (sign ++ first :: rest) = (negative, first :: rest) := by
  cases signs with
  | none =>
    rw [List.nil_append]
    unfold splitSign
    split
    · next start =>
      cases start
      exact absurd isDigit (by decide)
    · next start =>
      cases start
      exact absurd isDigit (by decide)
    · rfl
  | plus => rfl
  | minus => rfl

theorem exponentOfChars?_eq_some_iff :
    exponentOfChars? cs = some n ↔ ∃ sign negative digits, cs = sign ++ digits ∧
      Signs sign negative ∧ digits ≠ [] ∧ AreDigits digits ∧ n = signed negative digits := by
  unfold exponentOfChars?
  refine ⟨?_, ?_⟩
  · intro h
    obtain ⟨sign, signs, joined⟩ := exists_signs cs
    simp only [Option.ite_none_right_eq_some, Bool.and_eq_true, Bool.not_eq_true',
      List.isEmpty_eq_false_iff, List.all_eq_true, Option.some.injEq] at h
    obtain ⟨⟨nonempty, areDigits⟩, rfl⟩ := h
    exact ⟨sign, _, _, joined, signs, nonempty, areDigits, rfl⟩
  · rintro ⟨sign, negative, digits, rfl, signs, nonempty, areDigits, rfl⟩
    obtain ⟨first, rest, rfl⟩ := List.exists_cons_of_ne_nil nonempty
    rw [splitSign_of_signs signs (areDigits first (by simp))]
    simp [List.all_eq_true.mpr areDigits]

theorem coeffOfChars?_eq_some_iff : coeffOfChars? cs = some n ↔ Coefficient cs n := by
  unfold coeffOfChars?
  refine ⟨?_, ?_⟩
  · intro h
    obtain ⟨sign, signs, joined⟩ := exists_signs cs
    generalize splitSign cs = parts at h signs joined
    obtain ⟨negative, digits⟩ := parts
    simp only [Option.ite_none_right_eq_some, Bool.and_eq_true, Option.any_eq_true,
      List.all_eq_true, Bool.or_eq_true, beq_iff_eq, Option.some.injEq] at h
    obtain ⟨⟨⟨first, head, isDigit⟩, grouped⟩, rfl⟩ := h
    obtain ⟨rest, rfl⟩ := List.head?_eq_some_iff.mp head
    rw [joined]
    exact .grouped signs isDigit fun c hc => grouped c (List.mem_cons_of_mem first hc)
  · rintro ⟨signs, isDigit, grouped⟩
    rw [splitSign_of_signs signs isDigit]
    simp only [List.head?_cons, Option.any_some, isDigit, List.all_cons, Bool.true_or,
      Bool.true_and]
    rw [if_pos]
    rw [List.all_eq_true]
    intro c hc
    simpa using grouped c hc

/-- No character of a coefficient is the mark of a power. -/
theorem Coefficient.unmarked (h : Coefficient cs n) : ∀ c ∈ cs, isExponentMark c = false := by
  cases h with
  | @grouped sign rest negative first signs isDigit grouped =>
    rw [List.forall_mem_append, List.forall_mem_cons]
    refine ⟨?_, not_isExponentMark_of_isDigit isDigit, ?_⟩
    · cases signs with
      | none => exact nofun
      | plus => exact List.forall_mem_singleton.mpr (by decide)
      | minus => exact List.forall_mem_singleton.mpr (by decide)
    · intro c hc
      rcases grouped c hc with isDigit | rfl
      · exact not_isExponentMark_of_isDigit isDigit
      · decide

/-- Besides the point, the characters of a text are those of the text without it. -/
theorem Pointed.mem (h : Pointed base plain places) {c : Char} (hc : c ∈ base) :
    c = '.' ∨ c ∈ plain := by
  cases h with
  | whole unpointed => exact .inr hc
  | pointed unpointed =>
    rw [List.mem_append, List.mem_cons] at hc
    rw [List.mem_append]
    tauto

/-- What is read as the whole part and the fraction. -/
theorem pointed_iff :
    Pointed base plain places ↔
      plain = base.takeWhile (· != '.') ++ (base.dropWhile (· != '.')).drop 1 ∧
        places = (((base.dropWhile (· != '.')).drop 1).filter (· != '_')).length := by
  have unpointed : ∀ {cs : List Char}, '.' ∉ cs → ∀ c ∈ cs, (c != '.') = true := by
    intro cs h c hc
    rw [bne_iff_ne]
    rintro rfl
    exact h hc
  refine ⟨?_, ?_⟩
  · intro h
    cases h with
    | whole free =>
      have others := unpointed free
      rw [List.takeWhile_eq_self_iff.mpr others, List.dropWhile_eq_nil_iff.mpr others]
      simp
    | pointed free =>
      have others := unpointed free
      rw [List.takeWhile_append_of_pos others, List.dropWhile_append_of_pos others]
      simp
  · rintro ⟨rfl, rfl⟩
    have front : '.' ∉ base.takeWhile (· != '.') := by
      intro h
      exact absurd (List.mem_takeWhile_imp h) (by decide)
    have ahead := List.head?_dropWhile_not (· != '.') base
    have joined := List.takeWhile_append_dropWhile (p := (· != '.')) (l := base)
    cases behind : base.dropWhile (· != '.') with
    | nil =>
      rw [behind, List.append_nil] at joined
      rw [joined] at front ⊢
      simpa using Pointed.whole front
    | cons c fraction =>
      rw [behind] at ahead joined
      obtain rfl : c = '.' := by simpa using ahead
      have pointed : Pointed (base.takeWhile (· != '.') ++ '.' :: fraction) _ _ := .pointed front
      rw [joined] at pointed
      exact pointed

theorem scales_iff : Scales power shift ↔ Exponent power shift := by
  refine ⟨?_, ?_⟩
  · intro h
    cases h with
    | unscaled => exact .unscaled
    | scaled marked read =>
      obtain ⟨sign, negative, digits, rfl, signs, nonempty, areDigits, rfl⟩ :=
        exponentOfChars?_eq_some_iff.mp read
      exact .scaled (by simpa [isExponentMark] using marked) signs nonempty areDigits
  · intro h
    cases h with
    | unscaled => exact .unscaled
    | scaled marked signs nonempty areDigits =>
      refine .scaled (by simpa [isExponentMark] using marked) ?_
      exact exponentOfChars?_eq_some_iff.mpr
        ⟨_, _, _, rfl, signs, nonempty, areDigits, rfl⟩

/-- What the reader asks of the text before the power of ten, once it has the power. -/
theorem exists_parts_of_read {d : Decimal} {read? : Option Int}
    (scales : ∀ shift, read? = some shift → Scales power shift)
    (h : (do
      let shift ← read?
      let coeff ← coeffOfChars? (base.takeWhile (· != '.') ++ (base.dropWhile (· != '.')).drop 1)
      let scale := ((((base.dropWhile (· != '.')).drop 1).filter (· != '_')).length : Int) - shift
      if ScaleInRange scale then some ⟨coeff, scale⟩ else none) = some d) :
    ∃ plain places coeff shift, Pointed base plain places ∧ Coefficient plain coeff ∧
      Scales power shift ∧ ScaleInRange (places - shift) ∧ d = ⟨coeff, places - shift⟩ := by
  obtain ⟨shift, read, h⟩ := Option.bind_eq_some_iff.mp h
  obtain ⟨coeff, coefficient, h⟩ := Option.bind_eq_some_iff.mp h
  rw [Option.ite_none_right_eq_some, Option.some.injEq] at h
  obtain ⟨inRange, rfl⟩ := h
  exact ⟨_, _, coeff, shift, pointed_iff.mpr ⟨rfl, rfl⟩, coeffOfChars?_eq_some_iff.mp coefficient,
    scales shift read, inRange, rfl⟩

/-- **A text is read as an amount when it spells one.** -/
theorem ofText?_eq_some_iff {text : String} {d : Decimal} :
    ofText? text = some d ↔ Spells text d := by
  unfold ofText?
  refine ⟨?_, ?_⟩
  · intro h
    have ahead := List.head?_dropWhile_not (!isExponentMark ·) text.toList
    have joined := List.takeWhile_append_dropWhile (p := (!isExponentMark ·)) (l := text.toList)
    unfold ofChars? at h
    generalize text.toList.dropWhile (!isExponentMark ·) = power at h ahead joined
    generalize text.toList.takeWhile (!isExponentMark ·) = base at h joined
    have parts : ∃ plain places coeff shift, Pointed base plain places ∧ Coefficient plain coeff ∧
        Scales power shift ∧ ScaleInRange (places - shift) ∧ d = ⟨coeff, places - shift⟩ := by
      cases power with
      | nil =>
        refine exists_parts_of_read ?_ h
        rintro shift ⟨⟩
        exact .unscaled
      | cons mark digits =>
        exact exists_parts_of_read (fun shift read => .scaled (by simpa using ahead) read) h
    obtain ⟨plain, places, coeff, shift, pointed, coefficient, scales, inRange, rfl⟩ := parts
    exact .amount joined.symm pointed coefficient (scales_iff.mp scales) inRange
  · intro h
    cases h with
    | @amount base plain power places coeff shift joined pointed coefficient exponent inRange =>
      have unmarked : ∀ c ∈ base, (!isExponentMark c) = true := by
        intro c hc
        rcases pointed.mem hc with rfl | hc
        · decide
        · rw [coefficient.unmarked c hc]
          rfl
      have scales := scales_iff.mpr exponent
      have read := coeffOfChars?_eq_some_iff.mpr coefficient
      obtain ⟨rfl, rfl⟩ := pointed_iff.mp pointed
      unfold ofChars?
      dsimp only
      rw [joined, List.takeWhile_append_of_pos unmarked, List.dropWhile_append_of_pos unmarked,
        scales.takeWhile.1, scales.takeWhile.2, List.append_nil]
      cases scales with
      | unscaled =>
        refine Option.bind_eq_some_iff.mpr ⟨0, rfl, Option.bind_eq_some_iff.mpr ⟨_, read, ?_⟩⟩
        rw [if_pos inRange]
      | scaled marked shifted =>
        refine Option.bind_eq_some_iff.mpr ⟨_, shifted, Option.bind_eq_some_iff.mpr ⟨_, read, ?_⟩⟩
        rw [if_pos inRange]

end Decimal

end SchoolFees

/-
Moments: a date with a time of day.

The time has nanoseconds, and its minute may have a sixty-first second.  A fraction is
written with three, six or nine digits, the fewest that hold it; digits beyond the
ninth are dropped on reading.
-/
import SchoolFees.Calendar.Date
import SchoolFees.Powers

namespace SchoolFees

/-- A day has such a moment. -/
def Calendar.HasTime (hour minute second nanosecond : Nat) : Prop :=
  hour < 24 ∧ minute < 60 ∧ second ≤ 60 ∧ nanosecond < 10 ^ (9 : Nat)

instance (hour minute second nanosecond : Nat) :
    Decidable (Calendar.HasTime hour minute second nanosecond) :=
  inferInstanceAs (Decidable (_ ∧ _ ∧ _ ∧ _))

/-- A moment of a day. -/
structure DateTime where
  date : Date
  hour : Nat
  minute : Nat
  second : Nat
  nanosecond : Nat
  /-- A day has this moment. -/
  exists_time : Calendar.HasTime hour minute second nanosecond
deriving DecidableEq

namespace DateTime

/-- The fraction of a second, if there is one. -/
def fractionChars (nanosecond : Nat) : List Char :=
  if nanosecond = 0 then []
  else if nanosecond % 1000000 = 0 then '.' :: Text.padded 3 (nanosecond / 1000000)
  else if nanosecond % 1000 = 0 then '.' :: Text.padded 6 (nanosecond / 1000)
  else '.' :: Text.padded 9 nanosecond

/-- Writes a moment. -/
def toText (t : DateTime) : String :=
  t.date.toText ++ String.ofList ('T' :: Text.padded 2 t.hour ++ ':' :: Text.padded 2 t.minute ++
    ':' :: Text.padded 2 t.second ++ fractionChars t.nanosecond)

/-- Reads a fraction of a second, if one follows, in nanoseconds. -/
def fraction? : List Char → Option (Nat × List Char)
  | '.' :: rest => do
    let digits := (rest.take 9).takeWhile Char.isDigit
    let (n, _) ← Text.number? 9 rest
    some (n * 10 ^ (9 - digits.length), rest.dropWhile Char.isDigit)
  | cs => some (0, cs)

/-- Reads a moment that is the whole text. -/
def ofText? (text : String) : Option DateTime := do
  let (date, cs) ← Date.ofChars? text.toList
  let cs ← Text.char? 'T' cs
  let (hour, cs) ← Text.number? 2 (Text.dropBlanks cs)
  let cs ← Text.char? ':' (Text.dropBlanks cs)
  let (minute, cs) ← Text.number? 2 (Text.dropBlanks cs)
  let cs ← Text.char? ':' (Text.dropBlanks cs)
  let (second, cs) ← Text.number? 2 (Text.dropBlanks cs)
  let (nanosecond, cs) ← fraction? cs
  if h : Calendar.HasTime hour minute second nanosecond then
    if (Text.dropBlanks cs).isEmpty then some ⟨date, hour, minute, second, nanosecond, h⟩ else none
  else none

end DateTime

end SchoolFees

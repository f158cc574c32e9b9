/-
Calendar dates.

Dates are those of the Gregorian calendar, carried back before its introduction, with
years from `firstYear` to `lastYear`; a `Date` carries the proof that it is one.  The
day before a date is missing only for the very first.

A date is written year, month, day.  Years of four digits stand as they are; every
other year is written with a sign.  Reading is more generous than writing: blanks may
stand around each number, a year may be signed, and leading zeros may be left out.
-/
import SchoolFees.Text

namespace SchoolFees

namespace Calendar

/-- The first year that a date can have. -/
def firstYear : Int := -262143

/-- The last year that a date can have. -/
def lastYear : Int := 262142

/-- Leap years are those divisible by four, of the full centuries every fourth. -/
def IsLeap (year : Int) : Prop := year % 4 = 0 ∧ (year % 100 ≠ 0 ∨ year % 400 = 0)

instance (year : Int) : Decidable (IsLeap year) := inferInstanceAs (Decidable (_ ∧ _))

/-- How many days a month has. -/
def daysIn (year : Int) (month : Nat) : Nat :=
  if month = 2 then if IsLeap year then 29 else 28
  else if month = 4 ∨ month = 6 ∨ month = 9 ∨ month = 11 then 30
  else 31

/-- The calendar has such a day. -/
def HasDay (year : Int) (month day : Nat) : Prop :=
  (firstYear ≤ year ∧ year ≤ lastYear) ∧ (1 ≤ month ∧ month ≤ 12) ∧
    (1 ≤ day ∧ day ≤ daysIn year month)

instance (year : Int) (month day : Nat) : Decidable (HasDay year month day) :=
  inferInstanceAs (Decidable ((_ ∧ _) ∧ (_ ∧ _) ∧ (_ ∧ _)))

end Calendar

/-- A day of the calendar. -/
structure Date where
  year : Int
  month : Nat
  day : Nat
  /-- The calendar has this day. -/
  exists_day : Calendar.HasDay year month day
deriving DecidableEq

namespace Date

/-- The date of these three numbers, if there is one. -/
def of? (year : Int) (month day : Nat) : Option Date :=
  if h : Calendar.HasDay year month day then some ⟨year, month, day, h⟩ else none

/-- The day before, which the first day of the calendar does not have. -/
def previous? (d : Date) : Option Date :=
  if 1 < d.day then of? d.year d.month (d.day - 1)
  else if 1 < d.month then of? d.year (d.month - 1) (Calendar.daysIn d.year (d.month - 1))
  else of? (d.year - 1) 12 31

/-- The earlier date comes first. -/
def compare (a b : Date) : Ordering :=
  (Ord.compare a.year b.year).then <|
    (Ord.compare a.month b.month).then (Ord.compare a.day b.day)

instance : Ord Date := ⟨compare⟩

instance : LT Date := ltOfOrd

instance (a b : Date) : Decidable (a < b) := inferInstanceAs (Decidable (compare a b = .lt))

/-! ### Text -/

/-- A year in four digits, or with a sign when it has more or lies before the year zero. -/
def yearChars (year : Int) : List Char :=
  let digits := Text.padded 4 year.natAbs
  if year < 0 then '-' :: digits else if 9999 < year then '+' :: digits else digits

/-- Writes a date. -/
def toText (d : Date) : String :=
  String.ofList (yearChars d.year ++ '-' :: Text.padded 2 d.month ++ '-' :: Text.padded 2 d.day)

instance : ToString Date := ⟨toText⟩

/-- Reads a year: up to four digits, or a sign and any number of them. -/
def year? : List Char → Option (Int × List Char)
  | '-' :: rest => (Text.number? rest.length rest).map fun (n, rest) => (-(n : Int), rest)
  | '+' :: rest => (Text.number? rest.length rest).map fun (n, rest) => ((n : Int), rest)
  | cs => (Text.number? 4 cs).map fun (n, rest) => ((n : Int), rest)

/-- Reads a date off the front, with the blanks in and around it. -/
def ofChars? (cs : List Char) : Option (Date × List Char) := do
  let (year, cs) ← year? (Text.dropBlanks cs)
  let cs ← Text.char? '-' (Text.dropBlanks cs)
  let (month, cs) ← Text.number? 2 (Text.dropBlanks cs)
  let cs ← Text.char? '-' (Text.dropBlanks cs)
  let (day, cs) ← Text.number? 2 (Text.dropBlanks cs)
  let date ← of? year month day
  some (date, Text.dropBlanks cs)

/-- Reads a date that is the whole text. -/
def ofText? (text : String) : Option Date := do
  let (date, rest) ← ofChars? text.toList
  if rest.isEmpty then some date else none

end Date

end SchoolFees

/-
Lengths of time in milliseconds, and how they are written: below a second in
milliseconds, from a second on in seconds, with the milliseconds as a fraction that
has no zero to spare.  No time at all is `0ns`.

Whole milliseconds are what settings are given in and what timers count, and a length
here is made of nothing shorter.  A timer keeps a deadline between two milliseconds at
the later one, and such a deadline is given as that one; zero stands for zero alone.
-/
import SchoolFees.Text

namespace SchoolFees

/-- A length of time, in whole milliseconds. -/
structure Duration where
  millis : Nat
deriving DecidableEq

namespace Duration

/-- The milliseconds behind the point, without the zeros at their end. -/
def fractionChars (millis : Nat) : List Char :=
  match ((Text.padded 3 millis).reverse.dropWhile (· == '0')).reverse with
  | [] => []
  | digits => '.' :: digits

/-- Writes a length of time. -/
def toText (d : Duration) : String :=
  if d.millis = 0 then "0ns"
  else if d.millis < 1000 then s!"{d.millis}ms"
  else
    String.ofList (Nat.toDigits 10 (d.millis / 1000) ++ fractionChars (d.millis % 1000) ++ ['s'])

instance : ToString Duration := ⟨toText⟩

end Duration

end SchoolFees

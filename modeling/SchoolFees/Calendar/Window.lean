/-
Windows: from one day to another, both included.
-/
import SchoolFees.Error

namespace SchoolFees

/-- The days from `first` to `last`. -/
structure DateWindow where
  first : Date
  last : Date
deriving DecidableEq

namespace DateWindow

/-- The window between two days, which must not be reversed. -/
def between (first last : Date) : Except FeeError DateWindow := do
  require (¬ last < first) (.validation (.reversedWindow first last))
  return ⟨first, last⟩

/-- The window of a single day. -/
def day (date : Date) : DateWindow := ⟨date, date⟩

/-- Writes a window. -/
def toText (w : DateWindow) : String := s!"{w.first}..={w.last}"

instance : ToString DateWindow := ⟨toText⟩

end DateWindow

end SchoolFees

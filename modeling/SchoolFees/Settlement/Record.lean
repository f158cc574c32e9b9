/-
Comparisons of what two sides say about a school.

Only two totals can disagree: where a side has none, its total counts as zero, nothing
is compared and the record says which side is missing.  Two totals agree while they
differ by no more than the tolerance.
-/
import SchoolFees.Calendar.Window
import SchoolFees.Settlement.School

namespace SchoolFees

/-- Which side had no total. -/
inductive MissingSide where
  | localSide
  | remoteSide
  | bothSides
deriving DecidableEq

/-- The comparison of one school's totals over one window. -/
structure ReconciliationRecord where
  school : School
  window : DateWindow
  localTotal : Decimal
  remoteTotal : Decimal
  mismatched : Bool
  /-- Local less remote; zero unless both sides have a total. -/
  diff : Decimal
  missing : Option MissingSide
deriving DecidableEq

/-- Compares two totals, either of which may be missing. -/
def ReconciliationRecord.compare (school : School) (window : DateWindow) (tolerance : Decimal) :
    (localTotal remoteTotal : Option Decimal) → ReconciliationRecord
  | some l, some r => ⟨school, window, l, r, tolerance < (l - r).abs, l - r, none⟩
  | some l, none => ⟨school, window, l, 0, false, 0, some .remoteSide⟩
  | none, some r => ⟨school, window, 0, r, false, 0, some .localSide⟩
  | none, none => ⟨school, window, 0, 0, false, 0, some .bothSides⟩

end SchoolFees

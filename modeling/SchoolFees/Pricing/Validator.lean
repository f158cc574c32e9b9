/-
Which entries a catalog takes in.

A validator is a check of one entry, and a caller may supply any.  Two come with the
library.  `standard` wants both parts of the key to say something and the table to be
well formed.  `strict` also looks at the numbers of every tier and wants the bounds to
rise from one bounded tier to the next; the tier without a bound may stand anywhere
among them.

The checks run in the order in which they are written, and the first to fail is the
one that is reported.
-/
import SchoolFees.Pricing.Entry

namespace SchoolFees

/-- A check of an entry. -/
abbrev Validator := Entry → Except FeeError Unit

/-- Accepts a name that can serve as a key: something is in it, and it is not too long. -/
def checkIdentifier (id : String) : Except FeeError Unit := do
  require (¬ Text.isAllBlank id) (.validation .blankIdentifier)
  require (id.utf8ByteSize ≤ identifierLimit) (.validation .longIdentifier)

/-- Accepts a batch that holds at least one item. -/
def checkBatch {α : Type} (batch : List α) : Except FeeError Unit :=
  require (¬ batch.isEmpty) (.validation .emptyBatch)

/-- Accepts a tier whose numbers make sense: nothing is charged below zero or above the amount, and
the bound leaves room for an amount. -/
def Tier.check (t : Tier) : Except FeeError Unit := do
  require (¬ t.charge < 0) (.validation (.negativeCharge t.charge))
  require (¬ (t.kind = .percent ∧ 100 < t.charge)) (.validation (.percentAboveHundred t.charge))
  match t.bound with
  | none => .ok ()
  | some bound => require (¬ bound ≤ 0) (.validation (.boundNotPositive bound))

/-- Each amount is smaller than the next. -/
def Decimal.areAscending : List Decimal → Bool
  | a :: b :: rest => a < b && areAscending (b :: rest)
  | _ => true

namespace Validator

/-- Wants a key and a well-formed table. -/
def standard : Validator := fun e => do
  require (¬ Text.isAllBlank e.key.platform) (.validation .blankPlatform)
  require (¬ Text.isAllBlank e.key.mode) (.validation .blankMode)
  e.tiers.check

/-- Wants the numbers of the tiers to make sense as well. -/
def strict : Validator := fun e => do
  standard e
  e.tiers.forM Tier.check
  require (Decimal.areAscending e.tiers.bounds) (.validation (.boundsNotAscending e.key))

/-- Takes in every entry. -/
def lenient : Validator := fun _ => .ok ()

end Validator

end SchoolFees

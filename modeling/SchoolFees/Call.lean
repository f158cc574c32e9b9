/-
Calls to collaborators, and their deadlines.

A call is known by what it answers and how many milliseconds after it was made.  Time
passes only while a call waits.  A deadline lets an answer through that comes in time, the
last moment included, and puts a timeout in the place of any later one.
-/
import SchoolFees.Error

namespace SchoolFees

/-- What a call answers, and when. -/
structure Call (α : Type) where
  answer : Except FeeError α
  /-- The milliseconds from the call to its answer. -/
  elapsed : Nat

namespace Call

variable {α β : Type}

/-- Fails on the spot. -/
def refuse (e : FeeError) : Call α := ⟨.error e, 0⟩

/-- The call with a deadline. -/
def within (limit : Duration) (c : Call α) : Call α :=
  if c.elapsed ≤ limit.millis then c else ⟨.error (.timeout limit), limit.millis⟩

/-- Two calls made together.  They end when both have answered, or with the first failure; of two
failures at the same moment the first call's counts. -/
def both (c : Call α) (d : Call β) : Call (α × β) :=
  match c.answer, d.answer with
  | .ok a, .ok b => ⟨.ok (a, b), max c.elapsed d.elapsed⟩
  | .error e, .ok _ => ⟨.error e, c.elapsed⟩
  | .ok _, .error e => ⟨.error e, d.elapsed⟩
  | .error e, .error f =>
    if d.elapsed < c.elapsed then ⟨.error f, d.elapsed⟩ else ⟨.error e, c.elapsed⟩

/-- Works on the answer, in no time. -/
def andThen (c : Call α) (f : Except FeeError α → Except FeeError β) : Call β :=
  ⟨f c.answer, c.elapsed⟩

end Call

end SchoolFees

/-
What a cascade can find when it prices a payment.

Commissions are computed from two collaborators, the store of rate sheets and the
payments backend.  Both start out empty and are told things one after another;
`PricingState.Reached` says which pairs of them can come about that way.  Nothing in
such a history makes the store refuse or the backend wait, and that is the invariant
(`Prompt`) on which the laws of pricing rest: every read of a sheet answers, and every
answer of the backend is in time.
-/
import SchoolFees.Commission.Cascade
import SchoolFees.Proofs.Outcome
import SchoolFees.Sheets.Change

namespace SchoolFees

/-- The collaborators that a cascade prices from. -/
structure PricingState where
  sheets : SheetStore
  payments : Payments

/-- Something that the collaborators of a cascade are told. -/
inductive PricingEvent where
  /-- An owner gets a sheet, in place of any earlier one. -/
  | putSheet (owner : Owner) (sheet : Catalog)
  | changeSheet (accepts : Validator) (owner : Owner) (change : SheetChange)
  | clearSheets
  | setAmount (transaction : String) (amount : Decimal)
  | setApplied (schoolId : String) (key : ChargeKey) (tier : Tier)
  | setSettled (priceKey : String) (date : Date) (count : Nat)
  /-- From now on the backend refuses to answer about this name. -/
  | failFor (name : String)

namespace PricingState

/-- Nobody has been told anything. -/
def empty : PricingState := ⟨.empty, .empty⟩

/-- The collaborators after they have been told something. -/
def after (s : PricingState) : PricingEvent → Except FeeError PricingState
  | .putSheet owner sheet => do
    let sheets ← s.sheets.write owner sheet
    return { s with sheets }
  | .changeSheet accepts owner change => do
    let (_, sheets) ← s.sheets.change accepts owner change
    return { s with sheets }
  | .clearSheets => .ok { s with sheets := s.sheets.clear }
  | .setAmount transaction amount =>
    .ok { s with payments := s.payments.setAmount transaction amount }
  | .setApplied schoolId key tier =>
    .ok { s with payments := s.payments.setApplied schoolId key tier }
  | .setSettled priceKey date count =>
    .ok { s with payments := s.payments.setSettled priceKey date count }
  | .failFor name => .ok { s with payments := s.payments.failFor name }

/-- Some history leads from empty collaborators to these. -/
inductive Reached : PricingState → Prop
  | empty : Reached .empty
  | after {s s' : PricingState} (earlier : Reached s) (event : PricingEvent)
      (told : s.after event = .ok s') : Reached s'

/-- The store reads and writes every sheet, and the backend answers at once. -/
structure Prompt (s : PricingState) : Prop where
  readable : s.sheets.unreadable = []
  writable : s.sheets.unwritable = []
  undelayed : s.payments.delays = ∅

end PricingState

namespace SheetStore

/-- Writing a sheet leaves it open which owners can be read and written. -/
theorem refusals_of_write {s s' : SheetStore} {owner : Owner} {sheet : Catalog}
    (h : s.write owner sheet = .ok s') :
    s'.unreadable = s.unreadable ∧ s'.unwritable = s.unwritable := by
  obtain ⟨-, rfl⟩ := write_eq_ok_iff.mp h
  exact ⟨rfl, rfl⟩

theorem refusals_of_change {s s' : SheetStore} {accepts : Validator} {owner : Owner}
    {change : SheetChange} {answer : ChangeAnswer}
    (h : s.change accepts owner change = .ok (answer, s')) :
    s'.unreadable = s.unreadable ∧ s'.unwritable = s.unwritable := by
  obtain ⟨pending, -, h⟩ := Outcome.bind_eq_ok.mp h
  obtain ⟨written, hcommit, h⟩ := Outcome.bind_eq_ok.mp h
  cases h
  unfold commit at hcommit
  split at hcommit
  · cases hcommit
    exact ⟨rfl, rfl⟩
  · exact refusals_of_write hcommit

end SheetStore

namespace PricingState

theorem prompt_empty : Prompt .empty := ⟨rfl, rfl, rfl⟩

/-- Nothing that is told makes a collaborator slow or unwilling. -/
theorem prompt_after {s s' : PricingState} (prompt : s.Prompt) {event : PricingEvent}
    (told : s.after event = .ok s') : s'.Prompt := by
  cases event with
  | putSheet owner sheet =>
    obtain ⟨sheets, hwrite, h⟩ := Outcome.bind_eq_ok.mp told
    cases h
    obtain ⟨hread, hwritten⟩ := SheetStore.refusals_of_write hwrite
    exact ⟨hread.trans prompt.readable, hwritten.trans prompt.writable, prompt.undelayed⟩
  | changeSheet accepts owner change =>
    obtain ⟨⟨answer, sheets⟩, hchange, h⟩ := Outcome.bind_eq_ok.mp told
    cases h
    obtain ⟨hread, hwritten⟩ := SheetStore.refusals_of_change hchange
    exact ⟨hread.trans prompt.readable, hwritten.trans prompt.writable, prompt.undelayed⟩
  | clearSheets => cases told; exact ⟨prompt.readable, prompt.writable, prompt.undelayed⟩
  | setAmount transaction amount =>
    cases told; exact ⟨prompt.readable, prompt.writable, prompt.undelayed⟩
  | setApplied schoolId key tier =>
    cases told; exact ⟨prompt.readable, prompt.writable, prompt.undelayed⟩
  | setSettled priceKey date count =>
    cases told; exact ⟨prompt.readable, prompt.writable, prompt.undelayed⟩
  | failFor name => cases told; exact ⟨prompt.readable, prompt.writable, prompt.undelayed⟩

/-- Whatever the history, the collaborators stay prompt. -/
theorem Reached.prompt {s : PricingState} (h : s.Reached) : s.Prompt := by
  induction h with
  | empty => exact prompt_empty
  | after _ _ told ih => exact prompt_after ih told

end PricingState

namespace Payments

theorem elapsed_answer {α : Type} {p : Payments} (undelayed : p.delays = ∅) (name : String)
    (value : α) : (p.answer name value).elapsed = 0 := by
  simp [answer, undelayed]

theorem answer_within {α : Type} {p : Payments} (undelayed : p.delays = ∅) (name : String)
    (value : α) (limit : Duration) :
    ((p.answer name value).within limit).answer =
      if name ∈ p.failing then .error (.unavailable (.backend name)) else .ok value := by
  have now := elapsed_answer undelayed name value
  unfold Call.within
  rw [now, if_pos (Nat.zero_le _)]
  rfl

end Payments

end SchoolFees

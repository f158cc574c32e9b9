/-
Calls to the managers of rate sheets.

A manager reads the sheet of one owner, works on it as a catalog, and writes it back.
`perform` is that sequence of steps on a store, where what is written stays written even
if a later step fails.  Nothing is ever there to be undone: every call comes to a
decision first and writes last (`Reach`), so done step by step it ends just as a call
that happens as a whole or not at all (`perform_eq_tryCall`).
-/
import SchoolFees.Proofs.Outcome
import SchoolFees.Sheets.Change

namespace SchoolFees

/-- A call to a manager.  Several managers, each with its own validator, may share a store. -/
inductive ManagerCall where
  /-- Asks for the catalog of an owner, empty when there is no sheet. -/
  | catalog (owner : Owner)
  /-- Asks for the catalog of an owner, which must have a sheet. -/
  | requiredCatalog (owner : Owner)
  | changeSheet (accepts : Validator) (owner : Owner) (change : SheetChange)

/-- Whose sheet a call is about. -/
def ManagerCall.owner : ManagerCall → Owner
  | .catalog owner => owner
  | .requiredCatalog owner => owner
  | .changeSheet _ owner _ => owner

namespace SheetStore

/-- A call as a whole: its answer, and the store after it. -/
def call (s : SheetStore) : ManagerCall → Except FeeError (ChangeAnswer × SheetStore)
  | .catalog owner => do
    let catalog ← s.catalog owner
    return (.sheet catalog, s)
  | .requiredCatalog owner => do
    let catalog ← s.requiredCatalog owner
    return (.sheet catalog, s)
  | .changeSheet accepts owner change => s.change accepts owner change

/-- Makes a call, and goes on with the store as it was if the call fails. -/
def tryCall (s : SheetStore) (call : ManagerCall) : Except FeeError ChangeAnswer × SheetStore :=
  match s.call call with
  | .ok (answer, s') => (.ok answer, s')
  | .error e => (.error e, s)

/-- The answers to a sequence of calls, and the store after them. -/
def run (s : SheetStore) : List ManagerCall → List (Except FeeError ChangeAnswer) × SheetStore
  | [] => ([], s)
  | call :: rest =>
    let first := s.tryCall call
    let others := first.2.run rest
    (first.1 :: others.1, others.2)

end SheetStore

/-! ### Step by step -/

/-- Steps on a store that end with an answer or a failure.  What they have written stays written,
also when they fail. -/
abbrev StoreSteps (α : Type) : Type := ExceptT FeeError (StateM SheetStore) α

namespace StoreSteps

variable {α β : Type}

/-- How the steps end, and the store after them. -/
def endingOn (steps : StoreSteps α) (s : SheetStore) : Except FeeError α × SheetStore :=
  (ExceptT.run steps).run s

/-- Reads the sheet of an owner. -/
def readSheet (owner : Owner) : StoreSteps (Option Catalog) :=
  ExceptT.mk fun s => (s.read owner, s)

/-- Writes the sheet of an owner. -/
def writeSheet (owner : Owner) (sheet : Catalog) : StoreSteps Unit :=
  ExceptT.mk fun s =>
    match s.write owner sheet with
    | .ok s' => (.ok (), s')
    | .error e => (.error e, s)

/-- Works on what was read, without the store. -/
def work (outcome : Except FeeError α) : StoreSteps α := ExceptT.mk fun s => (outcome, s)

@[simp] theorem endingOn_work (outcome : Except FeeError α) (s : SheetStore) :
    (work outcome).endingOn s = (outcome, s) := rfl

@[simp] theorem endingOn_readSheet (owner : Owner) (s : SheetStore) :
    (readSheet owner).endingOn s = (s.read owner, s) := rfl

theorem endingOn_writeSheet (owner : Owner) (sheet : Catalog) (s : SheetStore) :
    (writeSheet owner sheet).endingOn s =
      match s.write owner sheet with
      | .ok s' => (.ok (), s')
      | .error e => (.error e, s) := rfl

theorem endingOn_bind (steps : StoreSteps α) (next : α → StoreSteps β) (s : SheetStore) :
    (steps >>= next).endingOn s =
      match steps.endingOn s with
      | (.ok a, s') => (next a).endingOn s'
      | (.error e, s') => (.error e, s') := by
  show StateT.bind (ExceptT.run steps) (ExceptT.bindCont next) s = _
  unfold StateT.bind endingOn
  show (match (ExceptT.run steps).run s with | (a, s') => ExceptT.bindCont next a s') = _
  cases (ExceptT.run steps).run s with
  | mk ending s' =>
    cases ending with
    | ok a => rfl
    | error e => rfl

end StoreSteps

/-- A call step by step. -/
def ManagerCall.perform : ManagerCall → StoreSteps ChangeAnswer
  | .catalog owner => do
    let sheet ← StoreSteps.readSheet owner
    return .sheet (sheet.getD .empty)
  | .requiredCatalog owner => do
    match ← StoreSteps.readSheet owner with
    | some sheet => return .sheet sheet
    | none => StoreSteps.work (.error (.storage (.noSheet owner)))
  | .changeSheet _ owner .ensureDefaults => do
    match ← StoreSteps.readSheet owner with
    | some sheet => return .sheet sheet
    | none =>
      StoreSteps.writeSheet owner .standard
      return .sheet .standard
  | .changeSheet accepts owner (.addCharge entry) => do
    let sheet ← StoreSteps.readSheet owner
    let revised ← StoreSteps.work ((sheet.getD .empty).add accepts entry)
    StoreSteps.writeSheet owner revised
    return .done
  | .changeSheet accepts owner (.updateCharge entry) => do
    StoreSteps.work (accepts entry)
    match ← StoreSteps.readSheet owner with
    | none => StoreSteps.work (.error (.storage (.noSheet owner)))
    | some sheet =>
      let revised ← StoreSteps.work (sheet.update entry)
      StoreSteps.writeSheet owner revised
      return .done
  | .changeSheet _ owner (.deleteCharge key) => do
    let sheet ← StoreSteps.readSheet owner
    let (entry, revised) ← StoreSteps.work ((sheet.getD .empty).delete key)
    StoreSteps.writeSheet owner revised
    return .removed entry

/-! ### Deciding first, writing last -/

namespace ManagerCall

/-- What a call asks of its input before any sheet is read. -/
def screen : ManagerCall → Except FeeError Unit
  | .changeSheet accepts _ change => change.screen accepts
  | _ => .ok ()

/-- What a call answers about a sheet, and the sheet it writes, if it writes one. -/
def revise : ManagerCall → Option Catalog → Except FeeError Revision
  | .catalog _, sheet => .ok ⟨.sheet (sheet.getD .empty), none⟩
  | .requiredCatalog _, some sheet => .ok ⟨.sheet sheet, none⟩
  | .requiredCatalog owner, none => .error (.storage (.noSheet owner))
  | .changeSheet accepts owner change, sheet => change.revise accepts owner sheet

/-- What a call comes to, before it writes. -/
def decision (call : ManagerCall) (s : SheetStore) : Except FeeError Revision := do
  call.screen
  let sheet ← s.read call.owner
  call.revise sheet

end ManagerCall

/-- How a call ends that has come to a decision. -/
def SheetStore.ending (s : SheetStore) (owner : Owner) :
    Except FeeError Revision → Except FeeError ChangeAnswer × SheetStore
  | .error e => (.error e, s)
  | .ok revision =>
    match s.commit ⟨owner, revision⟩ with
    | .error e => (.error e, s)
    | .ok s' => (.ok revision.answer, s')

namespace SheetStore

variable {s : SheetStore} {owner : Owner} {answer : ChangeAnswer}

theorem ending_error {e : FeeError} : s.ending owner (.error e) = (.error e, s) := rfl

theorem ending_unwritten : s.ending owner (.ok ⟨answer, none⟩) = (.ok answer, s) := rfl

theorem ending_written {sheet : Catalog} :
    s.ending owner (.ok ⟨answer, some sheet⟩) =
      match s.write owner sheet with
      | .error e => (.error e, s)
      | .ok s' => (.ok answer, s') := rfl

theorem tryCall_eq_ending (s : SheetStore) (call : ManagerCall) :
    s.tryCall call = s.ending call.owner (call.decision s) := by
  cases call with
  | catalog owner =>
    simp only [tryCall, call, SheetStore.catalog, ManagerCall.decision, ManagerCall.owner]
    cases s.read owner with
    | error e => rfl
    | ok sheet => rfl
  | requiredCatalog owner =>
    simp only [tryCall, call, SheetStore.requiredCatalog, ManagerCall.decision, ManagerCall.owner]
    cases s.read owner with
    | error e => rfl
    | ok sheet =>
      cases sheet with
      | none => rfl
      | some sheet => rfl
  | changeSheet accepts owner change =>
    have same : s.prepare accepts owner change =
      (ManagerCall.changeSheet accepts owner change).decision s >>= fun r => pure ⟨owner, r⟩ := by
      simp only [prepare, ManagerCall.decision, bind_assoc]
      rfl
    simp only [tryCall, call, SheetStore.change, same]
    cases (ManagerCall.changeSheet accepts owner change).decision s with
    | error e => rfl
    | ok revision =>
      show (match s.commit ⟨owner, revision⟩ >>= fun s' => pure (revision.answer, s') with
        | .ok (answer, s') => (Except.ok answer, s')
        | .error e => (Except.error e, s)) = s.ending owner (.ok revision)
      unfold ending
      dsimp only
      cases s.commit ⟨owner, revision⟩ with
      | error e => rfl
      | ok s' => rfl

end SheetStore

namespace StoreSteps

/-- The steps come to this decision, and write what was decided on as their last step. -/
def Reach (steps : StoreSteps ChangeAnswer) (s : SheetStore) (owner : Owner)
    (decision : Except FeeError Revision) : Prop :=
  steps.endingOn s = s.ending owner decision

variable {s : SheetStore} {owner : Owner} {sheet : Catalog} {answer : ChangeAnswer}

theorem reach_answer : Reach (pure answer) s owner (.ok ⟨answer, none⟩) := rfl

theorem reach_failure {e : FeeError} : Reach (work (.error e)) s owner (.error e) := rfl

theorem reach_write :
    Reach (writeSheet owner sheet >>= fun _ => pure answer) s owner (.ok ⟨answer, some sheet⟩) := by
  unfold Reach
  rw [endingOn_bind, endingOn_writeSheet, SheetStore.ending_written]
  cases s.write owner sheet with
  | error e => rfl
  | ok s' => rfl

theorem reach_work {outcome : Except FeeError α} {next : α → StoreSteps ChangeAnswer}
    {f : α → Except FeeError Revision} (h : ∀ a, Reach (next a) s owner (f a)) :
    Reach (work outcome >>= next) s owner (outcome >>= f) := by
  unfold Reach
  rw [endingOn_bind, endingOn_work]
  cases outcome with
  | error e => rfl
  | ok a => exact h a

theorem reach_read {next : Option Catalog → StoreSteps ChangeAnswer}
    {f : Option Catalog → Except FeeError Revision} (h : ∀ a, Reach (next a) s owner (f a)) :
    Reach (readSheet owner >>= next) s owner (s.read owner >>= f) := by
  unfold Reach
  rw [endingOn_bind, endingOn_readSheet]
  cases s.read owner with
  | error e => rfl
  | ok a => exact h a

end StoreSteps

/-- **Done step by step, a call ends as one that happens as a whole or not at all.** -/
theorem perform_eq_tryCall (call : ManagerCall) (s : SheetStore) :
    call.perform.endingOn s = s.tryCall call := by
  rw [SheetStore.tryCall_eq_ending]
  cases call with
  | catalog owner => exact StoreSteps.reach_read fun _ => StoreSteps.reach_answer
  | requiredCatalog owner =>
    refine StoreSteps.reach_read fun sheet => ?_
    cases sheet with
    | none => exact StoreSteps.reach_failure
    | some sheet => exact StoreSteps.reach_answer
  | changeSheet accepts owner change =>
    cases change with
    | ensureDefaults =>
      refine StoreSteps.reach_read fun sheet => ?_
      cases sheet with
      | none => exact StoreSteps.reach_write
      | some sheet => exact StoreSteps.reach_answer
    | addCharge entry =>
      refine StoreSteps.reach_read fun sheet => StoreSteps.reach_work fun revised => ?_
      exact StoreSteps.reach_write
    | updateCharge entry =>
      refine StoreSteps.reach_work fun _ => StoreSteps.reach_read fun sheet => ?_
      cases sheet with
      | none => exact StoreSteps.reach_failure
      | some sheet => exact StoreSteps.reach_work fun revised => StoreSteps.reach_write
    | deleteCharge key =>
      refine StoreSteps.reach_read fun sheet => StoreSteps.reach_work fun removed => ?_
      exact StoreSteps.reach_write

end SchoolFees

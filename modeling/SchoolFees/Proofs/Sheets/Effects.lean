/-
What calls do to a store in memory.

On a store in memory no step fails for the store's own sake.  What a call answers, and
the sheet it leaves its owner with, then depend on the owner's sheet and on nothing else
(`tryCall_inMemory`).  `Effect` says what they are in terms of the operations on catalogs
alone, with one constructor for each way a call can go.

A run of calls is seen by each owner as the run of the calls on that owner, by induction
on the calls: a call on the owner finds in both runs the same sheet, and a call on
another leaves it alone (`run_local`).
-/
import SchoolFees.Proofs.Pricing.CatalogKeys
import SchoolFees.Proofs.Sheets.Calls

namespace SchoolFees

namespace Registry

variable {κ α : Type} [DecidableEq κ]

/-- Puts a value, or none, under a key. -/
def put (r : Registry κ α) (key : κ) (value : Option α) : Registry κ α :=
  fun k => if k = key then value else r.get? k

@[simp] theorem get?_put (r : Registry κ α) (key k : κ) (value : Option α) :
    (r.put key value).get? k = if k = key then value else r.get? k := rfl

theorem put_get? (r : Registry κ α) (key : κ) : r.put key (r.get? key) = r := by
  refine ext fun k => ?_
  rw [get?_put]
  by_cases h : k = key
  · rw [if_pos h, h]
  · rw [if_neg h]

theorem put_put (r : Registry κ α) (key : κ) (value value' : Option α) :
    (r.put key value).put key value' = r.put key value' := by
  refine ext fun k => ?_
  simp only [get?_put]
  by_cases h : k = key
  · rw [if_pos h, if_pos h]
  · rw [if_neg h, if_neg h, if_neg h]

end Registry

/-! ### What comes of a call -/

namespace ManagerCall

/-- What a call answers about a sheet, and the sheet after it, in a store that never fails. -/
def outcome (call : ManagerCall) (sheet : Option Catalog) :
    Except FeeError ChangeAnswer × Option Catalog :=
  match call.screen >>= fun _ => call.revise sheet with
  | .error e => (.error e, sheet)
  | .ok revision => (.ok revision.answer, revision.sheet <|> sheet)

/-- A call on an owner with this sheet, or none, may give this answer and leave this sheet. -/
inductive Effect : ManagerCall → Option Catalog → Except FeeError ChangeAnswer → Option Catalog →
    Prop
  | asked {owner : Owner} {sheet : Option Catalog} :
      Effect (.catalog owner) sheet (.ok (.sheet (sheet.getD .empty))) sheet
  | found {owner : Owner} {c : Catalog} :
      Effect (.requiredCatalog owner) (some c) (.ok (.sheet c)) (some c)
  | missing {owner : Owner} :
      Effect (.requiredCatalog owner) none (.error (.storage (.noSheet owner))) none
  /-- A sheet that is there stays as it is, also an empty one. -/
  | kept {accepts : Validator} {owner : Owner} {c : Catalog} :
      Effect (.changeSheet accepts owner .ensureDefaults) (some c) (.ok (.sheet c)) (some c)
  | seeded {accepts : Validator} {owner : Owner} :
      Effect (.changeSheet accepts owner .ensureDefaults) none (.ok (.sheet .standard))
        (some .standard)
  /-- No sheet counts as an empty one. -/
  | added {accepts : Validator} {owner : Owner} {entry : Entry} {sheet : Option Catalog}
      {c : Catalog} (h : (sheet.getD .empty).add accepts entry = .ok c) :
      Effect (.changeSheet accepts owner (.addCharge entry)) sheet (.ok .done) (some c)
  | notAdded {accepts : Validator} {owner : Owner} {entry : Entry} {sheet : Option Catalog}
      {e : FeeError} (h : (sheet.getD .empty).add accepts entry = .error e) :
      Effect (.changeSheet accepts owner (.addCharge entry)) sheet (.error e) sheet
  | unaccepted {accepts : Validator} {owner : Owner} {entry : Entry} {sheet : Option Catalog}
      {e : FeeError} (h : accepts entry = .error e) :
      Effect (.changeSheet accepts owner (.updateCharge entry)) sheet (.error e) sheet
  /-- The manager's own validator speaks before the missing sheet is noticed. -/
  | unsheeted {accepts : Validator} {owner : Owner} {entry : Entry}
      (accepted : accepts entry = .ok ()) :
      Effect (.changeSheet accepts owner (.updateCharge entry)) none
        (.error (.storage (.noSheet owner))) none
  | updated {accepts : Validator} {owner : Owner} {entry : Entry} {c c' : Catalog}
      (accepted : accepts entry = .ok ()) (h : c.update entry = .ok c') :
      Effect (.changeSheet accepts owner (.updateCharge entry)) (some c) (.ok .done) (some c')
  | notUpdated {accepts : Validator} {owner : Owner} {entry : Entry} {c : Catalog} {e : FeeError}
      (accepted : accepts entry = .ok ()) (h : c.update entry = .error e) :
      Effect (.changeSheet accepts owner (.updateCharge entry)) (some c) (.error e) (some c)
  | deleted {accepts : Validator} {owner : Owner} {key : ChargeKey} {sheet : Option Catalog}
      {entry : Entry} {c : Catalog} (h : (sheet.getD .empty).delete key = .ok (entry, c)) :
      Effect (.changeSheet accepts owner (.deleteCharge key)) sheet (.ok (.removed entry)) (some c)
  | notDeleted {accepts : Validator} {owner : Owner} {key : ChargeKey} {sheet : Option Catalog}
      {e : FeeError} (h : (sheet.getD .empty).delete key = .error e) :
      Effect (.changeSheet accepts owner (.deleteCharge key)) sheet (.error e) sheet

section

variable {accepts : Validator} {owner : Owner} {sheet : Option Catalog}

theorem outcome_addCharge {entry : Entry} :
    outcome (.changeSheet accepts owner (.addCharge entry)) sheet =
      match (sheet.getD .empty).add accepts entry with
      | .error e => (.error e, sheet)
      | .ok c => (.ok .done, some c) := by
  simp only [outcome, screen, revise, SheetChange.screen, SheetChange.revise]
  cases (sheet.getD .empty).add accepts entry with
  | error e => rfl
  | ok c => rfl

theorem outcome_updateCharge {entry : Entry} :
    outcome (.changeSheet accepts owner (.updateCharge entry)) sheet =
      match accepts entry, sheet with
      | .error e, sheet => (.error e, sheet)
      | .ok _, none => (.error (.storage (.noSheet owner)), none)
      | .ok _, some c =>
        match c.update entry with
        | .error e => (.error e, some c)
        | .ok c' => (.ok .done, some c') := by
  simp only [outcome, screen, revise, SheetChange.screen]
  cases accepts entry with
  | error e => rfl
  | ok _ =>
    cases sheet with
    | none => rfl
    | some c =>
      simp only [SheetChange.revise]
      cases c.update entry with
      | error e => rfl
      | ok c' => rfl

theorem outcome_deleteCharge {key : ChargeKey} :
    outcome (.changeSheet accepts owner (.deleteCharge key)) sheet =
      match (sheet.getD .empty).delete key with
      | .error e => (.error e, sheet)
      | .ok (entry, c) => (.ok (.removed entry), some c) := by
  simp only [outcome, screen, revise, SheetChange.screen, SheetChange.revise]
  cases (sheet.getD .empty).delete key with
  | error e => rfl
  | ok removed => rfl

end

variable {call : ManagerCall} {sheet sheet' : Option Catalog}
  {answer : Except FeeError ChangeAnswer}

/-- A call has the effect that is its outcome. -/
theorem effect_outcome (call : ManagerCall) (sheet : Option Catalog) :
    call.Effect sheet (call.outcome sheet).1 (call.outcome sheet).2 := by
  cases call with
  | catalog owner => exact .asked
  | requiredCatalog owner =>
    cases sheet with
    | none => exact .missing
    | some c => exact .found
  | changeSheet accepts owner change =>
    cases change with
    | ensureDefaults =>
      cases sheet with
      | none => exact .seeded
      | some c => exact .kept
    | addCharge entry =>
      rw [outcome_addCharge]
      cases h : (sheet.getD .empty).add accepts entry with
      | error e => exact .notAdded h
      | ok c => exact .added h
    | updateCharge entry =>
      rw [outcome_updateCharge]
      cases accepted : accepts entry with
      | error e => exact .unaccepted accepted
      | ok _ =>
        cases sheet with
        | none => exact .unsheeted accepted
        | some c =>
          dsimp only
          cases h : c.update entry with
          | error e => exact .notUpdated accepted h
          | ok c' => exact .updated accepted h
    | deleteCharge key =>
      rw [outcome_deleteCharge]
      cases h : (sheet.getD .empty).delete key with
      | error e => exact .notDeleted h
      | ok removed => exact .deleted h

/-- A call has no other effect than its outcome. -/
theorem Effect.eq_outcome (h : call.Effect sheet answer sheet') :
    call.outcome sheet = (answer, sheet') := by
  cases h with
  | asked => rfl
  | found => rfl
  | missing => rfl
  | kept => rfl
  | seeded => rfl
  | added h => rw [outcome_addCharge, h]
  | notAdded h => rw [outcome_addCharge, h]
  | unaccepted h => rw [outcome_updateCharge, h]
  | unsheeted accepted => rw [outcome_updateCharge, accepted]
  | updated accepted h =>
    rw [outcome_updateCharge, accepted]
    dsimp only
    rw [h]
  | notUpdated accepted h =>
    rw [outcome_updateCharge, accepted]
    dsimp only
    rw [h]
  | deleted h => rw [outcome_deleteCharge, h]
  | notDeleted h => rw [outcome_deleteCharge, h]

theorem effect_iff : call.Effect sheet answer sheet' ↔ call.outcome sheet = (answer, sheet') := by
  refine ⟨Effect.eq_outcome, ?_⟩
  intro h
  have effect := effect_outcome call sheet
  rwa [h] at effect

/-- A call that fails leaves its owner with the sheet it had, or with none. -/
theorem Effect.unchanged_of_error {e : FeeError} (h : call.Effect sheet (.error e) sheet') :
    sheet' = sheet := by
  cases h with
  | missing => rfl
  | notAdded _ => rfl
  | unaccepted _ => rfl
  | unsheeted _ => rfl
  | notUpdated _ _ => rfl
  | notDeleted _ => rfl

/-- Taking the last entry off leaves an empty sheet behind. -/
theorem Effect.empty_of_deleted {accepts : Validator} {owner : Owner} {key : ChargeKey}
    {c : Catalog} {removed : Entry} (single : c.entries.length = 1)
    (h : Effect (.changeSheet accepts owner (.deleteCharge key)) (some c) (.ok (.removed removed))
      sheet') : sheet' = some .empty := by
  cases h with
  | deleted h =>
    rw [Option.getD_some] at h
    obtain ⟨hfound, rfl⟩ := Catalog.delete_eq_ok_iff.mp h
    obtain ⟨before, after, hsplit, hsame, hbefore⟩ := Catalog.split_of_find? hfound
    have rest : before ++ after = [] := by
      rw [hsplit, List.length_append, List.length_cons] at single
      exact List.eq_nil_of_length_eq_zero (by rw [List.length_append]; omega)
    show some (Catalog.mk (c.entries.eraseP _)) = some ⟨[]⟩
    rw [hsplit, Catalog.eraseP_of_split hbefore hsame, rest]

/-- An owner is given the standard sheet once. -/
theorem Effect.repeated {accepts : Validator} {owner : Owner}
    (h : Effect (.changeSheet accepts owner .ensureDefaults) sheet answer sheet') :
    Effect (.changeSheet accepts owner .ensureDefaults) sheet' answer sheet' := by
  cases h with
  | kept => exact .kept
  | seeded => exact .kept

end ManagerCall

/-! ### Stores in memory -/

namespace SheetStore

/-- The store in memory that has these sheets: neither reading nor writing ever fails. -/
def inMemory (sheets : Registry Owner Catalog) : SheetStore := ⟨sheets, [], []⟩

variable {sheets : Registry Owner Catalog}

/-- **A call to a store in memory is the outcome for its owner's sheet.** -/
theorem tryCall_inMemory (sheets : Registry Owner Catalog) (call : ManagerCall) :
    (inMemory sheets).tryCall call =
      ((call.outcome (sheets.get? call.owner)).1,
        inMemory (sheets.put call.owner (call.outcome (sheets.get? call.owner)).2)) := by
  have read : (inMemory sheets).read call.owner = .ok (sheets.get? call.owner) := rfl
  have same : call.decision (inMemory sheets) =
      call.screen >>= fun _ => call.revise (sheets.get? call.owner) := by
    rw [ManagerCall.decision, read]
    rfl
  rw [tryCall_eq_ending, same, ManagerCall.outcome]
  cases call.screen >>= fun _ => call.revise (sheets.get? call.owner) with
  | error e =>
    dsimp only
    rw [ending_error, Registry.put_get?]
  | ok revision =>
    obtain ⟨answer, sheet⟩ := revision
    cases sheet with
    | none =>
      rw [ending_unwritten]
      show _ = (Except.ok answer, inMemory (sheets.put call.owner (sheets.get? call.owner)))
      rw [Registry.put_get?]
    | some sheet => rfl

/-! ### Runs of calls -/

theorem run_append (s : SheetStore) (calls later : List ManagerCall) :
    s.run (calls ++ later) =
      ((s.run calls).1 ++ ((s.run calls).2.run later).1, ((s.run calls).2.run later).2) := by
  induction calls generalizing s with
  | nil => rfl
  | cons call rest ih =>
    simp only [List.cons_append, run, ih]

theorem length_run (s : SheetStore) (calls : List ManagerCall) :
    (s.run calls).1.length = calls.length := by
  induction calls generalizing s with
  | nil => rfl
  | cons call rest ih => exact congrArg (· + 1) (ih _)

/-- A store in memory stays one. -/
theorem run_inMemory (sheets : Registry Owner Catalog) (calls : List ManagerCall) :
    ∃ after, ((inMemory sheets).run calls).2 = inMemory after := by
  induction calls generalizing sheets with
  | nil => exact ⟨sheets, rfl⟩
  | cons call rest ih =>
    obtain ⟨after, hafter⟩ :=
      ih (sheets.put call.owner (call.outcome (sheets.get? call.owner)).2)
    refine ⟨after, ?_⟩
    show (((inMemory sheets).tryCall call).2.run rest).2 = inMemory after
    rw [tryCall_inMemory]
    exact hafter

/-- The answers to the calls on one owner, in their order. -/
def answersTo (owner : Owner) (calls : List ManagerCall)
    (answers : List (Except FeeError ChangeAnswer)) : List (Except FeeError ChangeAnswer) :=
  ((calls.zip answers).filter fun p => p.1.owner = owner).map (·.2)

/-- **An owner sees a run as the run of the calls on it.** -/
theorem run_local {sheets sheets' : Registry Owner Catalog} {owner : Owner}
    (agree : sheets.get? owner = sheets'.get? owner) (calls : List ManagerCall) :
    answersTo owner calls ((inMemory sheets).run calls).1 =
        ((inMemory sheets').run (calls.filter fun call => call.owner = owner)).1 ∧
      ((inMemory sheets).run calls).2.sheets.get? owner =
        ((inMemory sheets').run (calls.filter fun call => call.owner = owner)).2.sheets.get?
          owner := by
  induction calls generalizing sheets sheets' with
  | nil => exact ⟨rfl, agree⟩
  | cons call rest ih =>
    by_cases own : call.owner = owner
    · subst own
      -- Both runs make this call, and agree about its owner after it.
      have step :
          (sheets.put call.owner (call.outcome (sheets.get? call.owner)).2).get? call.owner =
            (sheets'.put call.owner (call.outcome (sheets'.get? call.owner)).2).get?
              call.owner := by
        rw [Registry.get?_put, if_pos rfl, Registry.get?_put, if_pos rfl, agree]
      obtain ⟨answers, sheet⟩ := ih step
      rw [List.filter_cons_of_pos (by simp)]
      simp only [run, tryCall_inMemory]
      refine ⟨?_, sheet⟩
      rw [← answers, agree]
      simp [answersTo]
    · have step : (sheets.put call.owner (call.outcome (sheets.get? call.owner)).2).get? owner =
          sheets'.get? owner := by
        rw [Registry.get?_put, if_neg (Ne.symm own), agree]
      obtain ⟨answers, sheet⟩ := ih step
      rw [List.filter_cons_of_neg (by simpa using own)]
      simp only [run, tryCall_inMemory]
      refine ⟨?_, sheet⟩
      rw [← answers]
      simp [answersTo, own]

/-! ### The law of calls -/

/-- What a call does to the sheets of a store in memory. -/
structure Performs (before : Registry Owner Catalog) (call : ManagerCall)
    (answer : Except FeeError ChangeAnswer) (after : Registry Owner Catalog) : Prop where
  /-- The owner's sheet becomes what the operations on catalogs make of it. -/
  effect : call.Effect (before.get? call.owner) answer (after.get? call.owner)
  /-- Nothing else could have come of the call. -/
  only : ∀ answer' sheet', call.Effect (before.get? call.owner) answer' sheet' →
    answer' = answer ∧ sheet' = after.get? call.owner
  /-- The sheets of all other owners stay as they are. -/
  elsewhere : ∀ other, other ≠ call.owner → after.get? other = before.get? other
  /-- A call that fails changes nothing at all. -/
  failed : ∀ e, answer = .error e → after = before
  /-- An owner whose last entry is taken off keeps an empty sheet. -/
  emptied : ∀ accepts owner key c removed, call = .changeSheet accepts owner (.deleteCharge key) →
    before.get? owner = some c → c.entries.length = 1 → answer = .ok (.removed removed) →
    after.get? owner = some .empty
  /-- Asking for the standard sheet a second time is asking once. -/
  repeated : ∀ accepts owner, call = .changeSheet accepts owner .ensureDefaults →
    (inMemory after).tryCall call = (answer, inMemory after)
  /-- The call writes once, behind everything that can fail. -/
  stepwise : call.perform.endingOn (inMemory before) = (answer, inMemory after)

theorem performs_of_outcome {before : Registry Owner Catalog} {call : ManagerCall}
    {answer : Except FeeError ChangeAnswer} {sheet : Option Catalog}
    (h : call.outcome (before.get? call.owner) = (answer, sheet)) :
    Performs before call answer (before.put call.owner sheet) := by
  have own : (before.put call.owner sheet).get? call.owner = sheet := by
    rw [Registry.get?_put, if_pos rfl]
  have effect := ManagerCall.effect_iff.mpr h
  have whole : (inMemory before).tryCall call =
      (answer, inMemory (before.put call.owner sheet)) := by
    rw [tryCall_inMemory, h]
  refine ⟨by rw [own]; exact effect, ?_, ?_, ?_, ?_, ?_, ?_⟩
  · intro answer' sheet' h'
    rw [h'.eq_outcome, Prod.mk.injEq] at h
    exact ⟨h.1, h.2.trans own.symm⟩
  · intro other hother
    rw [Registry.get?_put, if_neg hother]
  · rintro e rfl
    rw [effect.unchanged_of_error, Registry.put_get?]
  · rintro accepts owner key c removed rfl hc single rfl
    have effect : ManagerCall.Effect _ (before.get? owner) _ _ := effect
    rw [hc] at effect
    exact own.trans (effect.empty_of_deleted single)
  · rintro accepts owner rfl
    rw [tryCall_inMemory, own, effect.repeated.eq_outcome, Registry.put_put]
  · rw [perform_eq_tryCall, whole]

/--
**Calls are atomic, local to an owner, and agree with the catalog.**  Whatever has been
called before, a call has the effect on its owner's sheet that the operations on catalogs
have, no effect on any other sheet, and no effect at all if it fails.  So over a whole run
an owner gets the answers and the sheet that the calls on it alone would have brought.
-/
theorem run_performs (sheets : Registry Owner Catalog) (calls : List ManagerCall) :
    (∀ earlier call later, calls = earlier ++ call :: later →
      ∃ before answer after,
        ((inMemory sheets).run earlier).2 = inMemory before ∧
        ((inMemory sheets).run calls).1[earlier.length]? = some answer ∧
        ((inMemory sheets).run (earlier ++ [call])).2 = inMemory after ∧
        Performs before call answer after) ∧
      ∀ owner,
        answersTo owner calls ((inMemory sheets).run calls).1 =
            ((inMemory sheets).run (calls.filter fun call => call.owner = owner)).1 ∧
          ((inMemory sheets).run calls).2.sheets.get? owner =
            ((inMemory sheets).run (calls.filter fun call => call.owner = owner)).2.sheets.get?
              owner := by
  refine ⟨?_, fun owner => run_local rfl calls⟩
  rintro earlier call later rfl
  obtain ⟨before, hbefore⟩ := run_inMemory sheets earlier
  rcases outcome : call.outcome (before.get? call.owner) with ⟨answer, sheet⟩
  refine ⟨before, answer, before.put call.owner sheet, hbefore, ?_, ?_,
    performs_of_outcome outcome⟩
  · rw [run_append, hbefore]
    simp [length_run, run, tryCall_inMemory, outcome]
  · rw [run_append, hbefore]
    simp [run, tryCall_inMemory, outcome]

/-- Asks for new tiers on a sheet that the owner does not have. -/
def unsheetedUpdate : ManagerCall :=
  .changeSheet .standard (.gateway "pg") (.updateCharge (.zeroRated ⟨"UPI", "Others"⟩))

/-- Asks for the standard sheet. -/
def seeding : ManagerCall := .changeSheet .strict (.gateway "pg") .ensureDefaults

/-- The update fails and leaves no sheet, so the standard one is still to be written. -/
theorem run_performs_seeding :
    ∃ before answer after,
      ((inMemory ∅).run [unsheetedUpdate]).2 = inMemory before ∧
      ((inMemory ∅).run [unsheetedUpdate, seeding]).2 = inMemory after ∧
      Performs before seeding answer after ∧
      before.get? (.gateway "pg") = none ∧ after.get? (.gateway "pg") = some .standard := by
  obtain ⟨before, answer, after, hbefore, -, hafter, performs⟩ :=
    (run_performs ∅ [unsheetedUpdate, seeding]).1 [unsheetedUpdate] seeding [] rfl
  have missing : ((inMemory ∅).run [unsheetedUpdate]).2.sheets.get? (.gateway "pg") = none := by
    decide +kernel
  have seeded : ((inMemory ∅).run [unsheetedUpdate, seeding]).2.sheets.get? (.gateway "pg") =
      some .standard := by
    decide +kernel
  rw [hbefore] at missing
  rw [show [unsheetedUpdate, seeding] = [unsheetedUpdate] ++ [seeding] from rfl, hafter] at seeded
  exact ⟨before, answer, after, hbefore, hafter, performs, missing, seeded⟩

end SheetStore

end SchoolFees

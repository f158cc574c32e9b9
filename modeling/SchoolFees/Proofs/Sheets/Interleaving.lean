/-
Changes that run at the same time.

A change gets the sheet of its owner, decides on a new one and puts it in place, and other
changes may take steps between these two.  `Interleaved` has the steps of any number of
changes in any order, with one restriction: no change gets a sheet while another change
holds it.

How the changes of one owner go can then be told from these changes alone (`Follows`).
Those that have ended have the answers, and have left the sheet, of the same changes made
one after another, and one more change may hold that sheet as it is.  Steps of changes of
other owners preserve this, because they do not touch the sheet, and the change that holds
the sheet ends as if it had begun just then.  Put together over all owners, changes come
to what they come to one after another, in whatever order those of different owners are
taken (`serial_of_interleaved`).
-/
import Mathlib.Logic.Function.Basic
import SchoolFees.Proofs.Sheets.Effects
import SchoolFees.Proofs.Sheets.Kept

namespace SchoolFees

/-- A change that a manager is asked for. -/
structure ChangeRequest where
  accepts : Validator
  owner : Owner
  change : SheetChange

/-- The change as a whole. -/
def ChangeRequest.call (r : ChangeRequest) : ManagerCall :=
  .changeSheet r.accepts r.owner r.change

/-- How far a change has come. -/
inductive ChangeStage where
  | waiting
  /-- It has read the sheet of its owner and is going to write this revision of it. -/
  | holding (pending : PendingChange)
  | ended (answer : Except FeeError ChangeAnswer)
deriving DecidableEq

namespace ChangeStage

/-- The change is between its two steps. -/
def isHolding : ChangeStage → Bool
  | .holding _ => true
  | _ => false

/-- A change after its first step: it is over if it has failed, or has nothing to write. -/
def afterGet : Except FeeError PendingChange → ChangeStage
  | .error e => .ended (.error e)
  | .ok pending =>
    match pending.revision.sheet with
    | none => .ended (.ok pending.revision.answer)
    | some _ => .holding pending

end ChangeStage

variable {ι : Type}

/-- A step of one of the changes. -/
inductive StoreStep (ι : Type) where
  | get (op : ι)
  | put (op : ι)

/-- The changes in the order in which they have begun. -/
def begun (steps : List (StoreStep ι)) : List ι :=
  steps.filterMap fun
    | .get op => some op
    | .put _ => none

/-- A store that changes share, and how far each of them has come. -/
structure SharedSheets (ι : Type) where
  sheets : SheetStore
  stage : ι → ChangeStage

namespace SharedSheets

variable [DecidableEq ι]

/-- The first step of a change. -/
def get (w : SharedSheets ι) (op : ι) (r : ChangeRequest) : SharedSheets ι :=
  ⟨w.sheets, Function.update w.stage op
    (.afterGet (w.sheets.prepare r.accepts r.owner r.change))⟩

/-- The second step of a change. -/
def put (w : SharedSheets ι) (op : ι) : SharedSheets ι :=
  match w.stage op with
  | .holding pending =>
    match w.sheets.commit pending with
    | .ok sheets => ⟨sheets, Function.update w.stage op (.ended (.ok pending.revision.answer))⟩
    | .error e => ⟨w.sheets, Function.update w.stage op (.ended (.error e))⟩
  | _ => w

end SharedSheets

/-- These steps lead from a store, with all changes waiting, to this state.  A change gets the
sheet of its owner only while no change of this owner is between its two steps. -/
inductive Interleaved [DecidableEq ι] (requests : ι → ChangeRequest) (s : SheetStore) :
    List (StoreStep ι) → SharedSheets ι → Prop
  | start : Interleaved requests s [] ⟨s, fun _ => .waiting⟩
  | get {steps : List (StoreStep ι)} {w : SharedSheets ι} (earlier : Interleaved requests s steps w)
      (op : ι) (waiting : w.stage op = .waiting)
      (alone : ∀ other, (w.stage other).isHolding → (requests other).owner ≠ (requests op).owner) :
      Interleaved requests s (steps ++ [.get op]) (w.get op (requests op))
  | put {steps : List (StoreStep ι)} {w : SharedSheets ι} (earlier : Interleaved requests s steps w)
      (op : ι) (holding : (w.stage op).isHolding) :
      Interleaved requests s (steps ++ [.put op]) (w.put op)

/-! ### The two steps of one change -/

namespace SheetStore

variable {s s' : SheetStore} {r : ChangeRequest}

theorem tryCall_of_prepare_error {e : FeeError}
    (h : s.prepare r.accepts r.owner r.change = .error e) : s.tryCall r.call = (.error e, s) := by
  simp only [tryCall, call, ChangeRequest.call, change, h]
  rfl

theorem tryCall_of_commit_ok {pending : PendingChange}
    (h : s.prepare r.accepts r.owner r.change = .ok pending) (written : s.commit pending = .ok s') :
    s.tryCall r.call = (.ok pending.revision.answer, s') := by
  have changed : s.change r.accepts r.owner r.change = .ok (pending.revision.answer, s') :=
    Outcome.bind_eq_ok.mpr ⟨pending, h, Outcome.bind_eq_ok.mpr ⟨s', written, rfl⟩⟩
  simp only [tryCall, call, ChangeRequest.call, changed]

theorem tryCall_of_commit_error {pending : PendingChange} {e : FeeError}
    (h : s.prepare r.accepts r.owner r.change = .ok pending)
    (refused : s.commit pending = .error e) : s.tryCall r.call = (.error e, s) := by
  have failed : s.change r.accepts r.owner r.change = .error e :=
    Outcome.bind_eq_error.mpr (.inr ⟨pending, h, Outcome.bind_eq_error.mpr (.inl refused)⟩)
  simp only [tryCall, call, ChangeRequest.call, failed]

/-- What a change decides on depends on the sheet of its owner. -/
theorem AgreesAt.prepare_eq (h : AgreesAt r.owner s s') :
    s.prepare r.accepts r.owner r.change = s'.prepare r.accepts r.owner r.change := by
  unfold prepare
  rw [h.read_eq]

end SheetStore

theorem ChangeStage.isHolding_iff {stage : ChangeStage} :
    stage.isHolding = true ↔ ∃ pending, stage = .holding pending := by
  cases stage with
  | waiting => simp [isHolding]
  | holding pending => simp [isHolding]
  | ended answer => simp [isHolding]

namespace SharedSheets

variable [DecidableEq ι] {w : SharedSheets ι} {op : ι} {r : ChangeRequest}

/-- A change as a whole, in one step. -/
def settle (w : SharedSheets ι) (op : ι) (r : ChangeRequest) : SharedSheets ι :=
  ⟨(w.sheets.tryCall r.call).2, Function.update w.stage op (.ended (w.sheets.tryCall r.call).1)⟩

/-- A change that gets a sheet holds a revision of it then, or is over as a whole. -/
theorem get_cases (w : SharedSheets ι) (op : ι) (r : ChangeRequest) :
    w.get op r = w.settle op r ∨
      ∃ pending, w.sheets.prepare r.accepts r.owner r.change = .ok pending ∧
        w.get op r = ⟨w.sheets, Function.update w.stage op (.holding pending)⟩ := by
  unfold get settle
  cases prepared : w.sheets.prepare r.accepts r.owner r.change with
  | error e =>
    rw [SheetStore.tryCall_of_prepare_error prepared]
    exact .inl rfl
  | ok pending =>
    obtain ⟨owner, answer, sheet⟩ := pending
    cases sheet with
    | none =>
      rw [SheetStore.tryCall_of_commit_ok prepared rfl]
      exact .inl rfl
    | some sheet => exact .inr ⟨_, rfl, rfl⟩

/-- A change that holds the sheet as it is ends as it would have as a whole. -/
theorem put_eq_settle {pending : PendingChange} (holding : w.stage op = .holding pending)
    (prepared : w.sheets.prepare r.accepts r.owner r.change = .ok pending) :
    w.put op = w.settle op r := by
  unfold put settle
  rw [holding]
  dsimp only
  cases written : w.sheets.commit pending with
  | ok s' => rw [SheetStore.tryCall_of_commit_ok prepared written]
  | error e => rw [SheetStore.tryCall_of_commit_error prepared written]

end SharedSheets

/-! ### The changes of one owner -/

/-- The changes as calls to their managers. -/
def callsFor (requests : ι → ChangeRequest) (op : ι) : ManagerCall := (requests op).call

variable {requests : ι → ChangeRequest} {s : SheetStore} {owner : Owner} {w : SharedSheets ι}
  {ops : List ι} {op : ι}

/-- These changes have ended, with the answers and the sheet that they have one after another. -/
structure EndedAs (requests : ι → ChangeRequest) (s : SheetStore) (owner : Owner) (ops : List ι)
    (w : SharedSheets ι) : Prop where
  answers : ops.map w.stage = (s.run (ops.map (callsFor requests))).1.map .ended
  sheet : SheetStore.AgreesAt owner (s.run (ops.map (callsFor requests))).2 w.sheets

/-- So far the changes of this owner have gone as they would have gone one after another. -/
inductive Follows (requests : ι → ChangeRequest) (s : SheetStore) (owner : Owner)
    (w : SharedSheets ι) : List ι → Prop
  /-- Nobody holds the sheet. -/
  | free {ops : List ι} (ended : EndedAs requests s owner ops w)
      (free : ∀ op, (requests op).owner = owner → ¬ (w.stage op).isHolding) :
      Follows requests s owner w ops
  /-- One change holds the sheet, as it is. -/
  | held {ops : List ι} (ended : EndedAs requests s owner ops w) (op : ι) (pending : PendingChange)
      (own : (requests op).owner = owner) (holding : w.stage op = .holding pending)
      (prepared : w.sheets.prepare (requests op).accepts (requests op).owner (requests op).change =
        .ok pending)
      (only : ∀ other, (requests other).owner = owner → (w.stage other).isHolding → other = op) :
      Follows requests s owner w (ops ++ [op])

/-- A change that is between its two steps holds the sheet as it is. -/
theorem Follows.prepared (h : Follows requests s (requests op).owner w ops)
    {pending : PendingChange} (holding : w.stage op = .holding pending) :
    w.sheets.prepare (requests op).accepts (requests op).owner (requests op).change =
      .ok pending := by
  have busy := ChangeStage.isHolding_iff.mpr ⟨pending, holding⟩
  cases h with
  | free ended free => exact absurd busy (free op rfl)
  | held ended holder pending' own holding' prepared only =>
    obtain rfl := only op rfl busy
    rw [holding] at holding'
    cases holding'
    exact prepared

theorem callsOf_begun_get (requests : ι → ChangeRequest) (owner : Owner)
    (steps : List (StoreStep ι)) (op : ι) :
    SheetStore.callsOf (callsFor requests) owner (begun (steps ++ [.get op])) =
      SheetStore.callsOf (callsFor requests) owner (begun steps) ++
        if (requests op).owner = owner then [op] else [] := by
  have same : (callsFor requests op).owner = (requests op).owner := rfl
  by_cases own : (requests op).owner = owner
  · simp [SheetStore.callsOf, begun, List.filterMap_append, same, own]
  · simp [SheetStore.callsOf, begun, List.filterMap_append, same, own]

theorem begun_put (steps : List (StoreStep ι)) (op : ι) :
    begun (steps ++ [.put op]) = begun steps := by
  simp [begun, List.filterMap_append]

section Steps

variable [DecidableEq ι]

/-- Whatever becomes of a change that has not ended, those that have ended stay as they are. -/
theorem EndedAs.map_update (h : EndedAs requests s owner ops w)
    (going : ∀ answer, w.stage op ≠ .ended answer) (stage : ChangeStage) :
    ops.map (Function.update w.stage op stage) = ops.map w.stage := by
  refine List.map_congr_left fun other hother => Function.update_of_ne ?_ _ _
  rintro rfl
  have ended : w.stage other ∈ (s.run (ops.map (callsFor requests))).1.map .ended :=
    h.answers ▸ List.mem_map_of_mem hother
  obtain ⟨answer, -, same⟩ := List.mem_map.mp ended
  exact going answer same.symm

/-- A change that has not ended does not matter to those that have, as long as the owner's sheet
stays as it is. -/
theorem EndedAs.keep (h : EndedAs requests s owner ops w)
    (going : ∀ answer, w.stage op ≠ .ended answer) {sheets : SheetStore}
    (agree : SheetStore.AgreesAt owner w.sheets sheets) (stage : ChangeStage) :
    EndedAs requests s owner ops ⟨sheets, Function.update w.stage op stage⟩ :=
  ⟨(h.map_update going stage).trans h.answers, h.sheet.trans agree⟩

/-- One more change of the owner ends as it does after the others. -/
theorem EndedAs.settle (h : EndedAs requests s (requests op).owner ops w)
    (going : ∀ answer, w.stage op ≠ .ended answer) :
    EndedAs requests s (requests op).owner (ops ++ [op]) (w.settle op (requests op)) := by
  have before : SheetStore.AgreesAt (requests op).call.owner _ _ := h.sheet
  obtain ⟨answer, sheet⟩ := before.tryCall
  refine ⟨?_, ?_⟩
  · show (ops ++ [op]).map (Function.update w.stage op _) = _
    rw [List.map_append, h.map_update going, h.answers, List.map_append, SheetStore.run_append]
    simp [SheetStore.run, callsFor, ← answer]
  · rw [List.map_append, SheetStore.run_append]
    exact sheet

namespace Follows

/-- Changes of other owners do not matter. -/
theorem other (h : Follows requests s owner w ops) (ne : (requests op).owner ≠ owner)
    (going : ∀ answer, w.stage op ≠ .ended answer) {sheets : SheetStore}
    (agree : SheetStore.AgreesAt owner w.sheets sheets) (stage : ChangeStage) :
    Follows requests s owner ⟨sheets, Function.update w.stage op stage⟩ ops := by
  have same : ∀ other, (requests other).owner = owner →
      Function.update w.stage op stage other = w.stage other := by
    intro other own
    refine Function.update_of_ne ?_ _ _
    rintro rfl
    exact ne own
  cases h with
  | free ended free =>
    refine .free (ended.keep going agree stage) fun other own => ?_
    show ¬ (Function.update w.stage op stage other).isHolding
    rw [same other own]
    exact free other own
  | held ended holder pending own holding prepared only =>
    refine .held (ended.keep going agree stage) holder pending own ((same holder own).trans holding)
      ?_ fun other own' => ?_
    · subst own
      exact agree.prepare_eq.symm.trans prepared
    · show (Function.update w.stage op stage other).isHolding → _
      rw [same other own']
      exact only other own'

/-- When the one change ends that may hold the sheet, nobody does. -/
theorem settle (ended : EndedAs requests s (requests op).owner ops w)
    (going : ∀ answer, w.stage op ≠ .ended answer)
    (only : ∀ other, (requests other).owner = (requests op).owner → (w.stage other).isHolding →
      other = op) :
    Follows requests s (requests op).owner (w.settle op (requests op)) (ops ++ [op]) := by
  refine .free (ended.settle going) fun other own holding => ?_
  by_cases same : other = op
  · subst same
    simp [SharedSheets.settle, ChangeStage.isHolding] at holding
  · simp only [SharedSheets.settle, Function.update_of_ne same] at holding
    exact same (only other own holding)

/-- A change gets the sheet that nobody holds. -/
theorem get (h : Follows requests s (requests op).owner w ops) (waiting : w.stage op = .waiting)
    (alone : ∀ other, (w.stage other).isHolding →
      (requests other).owner ≠ (requests op).owner) :
    Follows requests s (requests op).owner (w.get op (requests op)) (ops ++ [op]) := by
  have going : ∀ answer, w.stage op ≠ .ended answer := by simp [waiting]
  cases h with
  | held ended holder pending own holding prepared only =>
    exact absurd own (alone holder (ChangeStage.isHolding_iff.mpr ⟨pending, holding⟩))
  | free ended free =>
    rcases w.get_cases op (requests op) with settled | ⟨pending, prepared, got⟩
    · rw [settled]
      exact settle ended going fun other own holding => absurd holding (free other own)
    · rw [got]
      refine .held (ended.keep going (.refl _ _) _) op pending rfl (Function.update_self ..)
        prepared fun other own holding => ?_
      by_contra ne
      simp only [Function.update_of_ne ne] at holding
      exact free other own holding

/-- The change that holds the sheet ends. -/
theorem put (h : Follows requests s (requests op).owner w ops) {pending : PendingChange}
    (holding : w.stage op = .holding pending) :
    Follows requests s (requests op).owner (w.settle op (requests op)) ops := by
  have going : ∀ answer, w.stage op ≠ .ended answer := by simp [holding]
  have busy := ChangeStage.isHolding_iff.mpr ⟨pending, holding⟩
  cases h with
  | free ended free => exact absurd busy (free op rfl)
  | held ended holder pending' own holding' prepared only =>
    obtain rfl := only op rfl busy
    exact settle ended going only

end Follows

namespace Interleaved

variable {steps : List (StoreStep ι)}

/-- **Every owner's changes go as they would have gone one after another.** -/
theorem follows (h : Interleaved requests s steps w) (owner : Owner) :
    Follows requests s owner w (SheetStore.callsOf (callsFor requests) owner (begun steps)) := by
  -- All owners at once: that a put ends as a whole change is known from its own owner.
  induction h generalizing owner with
  | start => exact .free ⟨rfl, .refl owner s⟩ (by simp [ChangeStage.isHolding])
  | @get steps w earlier op waiting alone ih =>
    rw [callsOf_begun_get]
    by_cases own : (requests op).owner = owner
    · subst own
      rw [if_pos rfl]
      exact (ih _).get waiting alone
    · rw [if_neg own, List.append_nil]
      exact (ih owner).other own (by simp [waiting]) (.refl _ _) _
  | @put steps w earlier op holding ih =>
    obtain ⟨pending, holding⟩ := ChangeStage.isHolding_iff.mp holding
    rw [begun_put, SharedSheets.put_eq_settle holding ((ih _).prepared holding)]
    by_cases own : (requests op).owner = owner
    · subst own
      exact (ih _).put holding
    · have other : owner ≠ (requests op).call.owner := Ne.symm own
      exact (ih owner).other own (by simp [holding]) (SheetStore.agreesAt_tryCall w.sheets other) _

/-- Once nobody is between two steps, every owner's changes have ended. -/
theorem endedAs (h : Interleaved requests s steps w) (finished : ∀ op, ¬ (w.stage op).isHolding)
    (owner : Owner) :
    EndedAs requests s owner (SheetStore.callsOf (callsFor requests) owner (begun steps)) w := by
  have follows := h.follows owner
  generalize SheetStore.callsOf (callsFor requests) owner (begun steps) = ops at follows
  cases follows with
  | free ended free => exact ended
  | held ended op pending own holding prepared only =>
    exact absurd (ChangeStage.isHolding_iff.mpr ⟨pending, holding⟩) (finished op)

/-- One after another, the changes have the same answers and leave the same store. -/
theorem serial (h : Interleaved requests s steps w) (finished : ∀ op, ¬ (w.stage op).isHolding)
    {order : List ι}
    (perOwner : ∀ owner, SheetStore.callsOf (callsFor requests) owner order =
      SheetStore.callsOf (callsFor requests) owner (begun steps)) :
    order.map w.stage = (s.run (order.map (callsFor requests))).1.map .ended ∧
      (s.run (order.map (callsFor requests))).2 = w.sheets := by
  refine ⟨SheetStore.map_eq_run fun owner => ?_, SheetStore.eq_of_agreesAt fun owner => ?_⟩
  · rw [perOwner owner]
    exact (h.endedAs finished owner).answers
  · have run := (SheetStore.AgreesAt.refl owner s).run (callsFor requests) order
    rw [perOwner owner] at run
    exact run.symm.trans (h.endedAs finished owner).sheet

end Interleaved

end Steps

/-! ### Charges that stay -/

/-- A charge stays on its sheet through any changes of which none replaces it or takes it off. -/
theorem SheetStore.Has.run {entry : Entry} {order : List ι} {stage : ι → ChangeStage}
    (has : s.Has owner entry)
    (answers : order.map stage = (s.run (order.map (callsFor requests))).1.map .ended)
    (kept : ∀ op ∈ order, (requests op).owner = owner → (requests op).change.Displaces entry.key →
      ∃ e, stage op = .ended (.error e)) :
    (s.run (order.map (callsFor requests))).2.Has owner entry := by
  induction order generalizing s with
  | nil => exact has
  | cons op rest ih =>
    obtain ⟨head, others⟩ := List.cons.inj answers
    obtain ⟨keptFirst, keptRest⟩ := List.forall_mem_cons.mp kept
    refine ih (has.changeSheet fun own displaces => ?_) others keptRest
    obtain ⟨e, failed⟩ := keptFirst own displaces
    rw [failed] at head
    exact ⟨e, (ChangeStage.ended.inj head).symm⟩

/--
**Changes that take turns at every sheet come to what they come to one after another.**
However the steps of changes of different owners fall between one another, the store and
all the answers are those of the same changes made one after another, in any order that
keeps that of each owner's changes.  So no charge that was added is lost, unless a later
change replaces it or takes it off, and changes of different owners may be swapped.
-/
theorem serial_of_interleaved [DecidableEq ι] (requests : ι → ChangeRequest) (s : SheetStore)
    (steps : List (StoreStep ι)) (w : SharedSheets ι) (interleaved : Interleaved requests s steps w)
    (finished : ∀ op, ¬ (w.stage op).isHolding) :
    (∀ order : List ι,
      (∀ owner, SheetStore.callsOf (callsFor requests) owner order =
        SheetStore.callsOf (callsFor requests) owner (begun steps)) →
      order.map w.stage = (s.run (order.map (callsFor requests))).1.map .ended ∧
        (s.run (order.map (callsFor requests))).2 = w.sheets) ∧
    (∀ earlier op later entry answer, begun steps = earlier ++ op :: later →
      (requests op).change = .addCharge entry → w.stage op = .ended (.ok answer) →
      (∀ next ∈ later, (requests next).owner = (requests op).owner →
        (requests next).change.Displaces entry.key → ∃ e, w.stage next = .ended (.error e)) →
      w.sheets.Has (requests op).owner entry) ∧
    ∀ (s' : SheetStore) (op op' : ι), (requests op).owner ≠ (requests op').owner →
      ∃ answer answer' s'',
        s'.run [callsFor requests op, callsFor requests op'] = ([answer, answer'], s'') ∧
        s'.run [callsFor requests op', callsFor requests op] = ([answer', answer], s'') := by
  refine ⟨fun order perOwner => interleaved.serial finished perOwner, ?_, fun s' op op' ne => ?_⟩
  · intro earlier op later entry answer order adds succeeded kept
    obtain ⟨answers, store⟩ := interleaved.serial finished fun _ => rfl
    rw [order, List.map_append, List.map_append, SheetStore.run_append, List.map_append] at answers
    rw [order, List.map_append, SheetStore.run_append] at store
    have lengths : (earlier.map w.stage).length =
        ((s.run (earlier.map (callsFor requests))).1.map ChangeStage.ended).length := by
      rw [List.length_map, List.length_map, SheetStore.length_run, List.length_map]
    obtain ⟨head, others⟩ := List.cons.inj (List.append_inj answers lengths).2
    rw [succeeded] at head
    have added := SheetStore.has_of_added adds (ChangeStage.ended.inj head).symm
    rw [← store]
    exact added.run others kept
  · have owners : (callsFor requests op).owner ≠ (callsFor requests op').owner := ne
    exact SheetStore.run_swap owners s'

/-- A charge for the gateway, the standard sheet for a school, and a deletion that has nothing to
take off. -/
def twoOwners : Fin 3 → ChangeRequest
  | 0 => ⟨.strict, .gateway "pg", .addCharge (.zeroRated ⟨"UPI", "Card"⟩)⟩
  | 1 => ⟨.standard, .schoolFinal "s1", .ensureDefaults⟩
  | 2 => ⟨.standard, .gateway "pg", .deleteCharge ⟨"UPI", "Wallet"⟩⟩

/-- The school's change has both its steps between those of the gateway's charge. -/
def twoOwnersSteps : List (StoreStep (Fin 3)) := [.get 0, .get 1, .put 1, .put 0, .get 2]

def twoOwnersEnd : SharedSheets (Fin 3) :=
  let start : SharedSheets (Fin 3) := ⟨.empty, fun _ => .waiting⟩
  ((((start.get 0 (twoOwners 0)).get 1 (twoOwners 1)).put 1).put 0).get 2 (twoOwners 2)

/-- It could as well have come last, and the charge is not lost. -/
theorem serial_of_interleaved_twoOwners :
    Interleaved twoOwners .empty twoOwnersSteps twoOwnersEnd ∧
      (∀ op, ¬ (twoOwnersEnd.stage op).isHolding) ∧
      [0, 2, 1].map twoOwnersEnd.stage =
        (SheetStore.empty.run ([0, 2, 1].map (callsFor twoOwners))).1.map .ended ∧
      (SheetStore.empty.run ([0, 2, 1].map (callsFor twoOwners))).2 = twoOwnersEnd.sheets ∧
      twoOwnersEnd.stage 2 = .ended (.error (.chargeNotFound ⟨"UPI", "Wallet"⟩)) ∧
      twoOwnersEnd.sheets.Has (.gateway "pg") (.zeroRated ⟨"UPI", "Card"⟩) := by
  have both : Interleaved twoOwners .empty [.get 0, .get 1] _ :=
    (Interleaved.start.get 0 rfl (by decide +kernel)).get 1 (by decide +kernel) (by decide +kernel)
  have written : Interleaved twoOwners .empty [.get 0, .get 1, .put 1, .put 0] _ :=
    (both.put 1 (by decide +kernel)).put 0 (by decide +kernel)
  have interleaved : Interleaved twoOwners .empty twoOwnersSteps twoOwnersEnd :=
    written.get 2 (by decide +kernel) (by decide +kernel)
  have finished : ∀ op, ¬ (twoOwnersEnd.stage op).isHolding := by decide +kernel
  have perOwner : ∀ owner, SheetStore.callsOf (callsFor twoOwners) owner [0, 2, 1] =
      SheetStore.callsOf (callsFor twoOwners) owner (begun twoOwnersSteps) := by
    intro owner
    by_cases gateway : owner = .gateway "pg"
    · subst gateway
      decide +kernel
    · have charge : (callsFor twoOwners 0).owner ≠ owner := Ne.symm gateway
      have deletion : (callsFor twoOwners 2).owner ≠ owner := Ne.symm gateway
      simp [SheetStore.callsOf, twoOwnersSteps, begun, List.filter_cons, charge, deletion]
  obtain ⟨serial, kept, -⟩ :=
    serial_of_interleaved twoOwners .empty twoOwnersSteps twoOwnersEnd interleaved finished
  obtain ⟨answers, store⟩ := serial [0, 2, 1] perOwner
  have missing : twoOwnersEnd.stage 2 = .ended (.error (.chargeNotFound ⟨"UPI", "Wallet"⟩)) := by
    decide +kernel
  refine ⟨interleaved, finished, answers, store, missing, ?_⟩
  refine kept [] 0 [1, 2] _ .done rfl rfl (by decide +kernel) ?_
  intro other hother own displaces
  rcases List.mem_cons.mp hother with rfl | hother
  · exact absurd own (by decide)
  · rw [List.mem_singleton] at hother
    subst hother
    exact ⟨_, missing⟩

end SchoolFees

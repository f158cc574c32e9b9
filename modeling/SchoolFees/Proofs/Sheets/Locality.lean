/-
What is local to an owner.

A call about an owner looks at the owner's sheet, and at whether that sheet can be read and
written, and changes nothing else.  Two stores with the same of all these (`AgreesAt`)
cannot be told apart by calls about the owner, and calls about other owners leave the
owner's part of a store alone.  So what a run of calls does to an owner is what the calls
about that owner would have done by themselves, and runs that differ only in how the calls
of different owners are ordered come to the same (`run_eq_of_callsOf`).
-/
import SchoolFees.Proofs.Sheets.Calls

namespace SchoolFees

namespace SheetStore

variable {s s' s'' : SheetStore} {owner : Owner} {call : ManagerCall}

/-- A call writes what it has decided on to the sheet of its owner, or leaves the store alone. -/
theorem tryCall_store (s : SheetStore) (call : ManagerCall) :
    (s.tryCall call).2 = s ∨
      ∃ sheet answer revised, s.read call.owner = .ok sheet ∧
        call.revise sheet = .ok ⟨answer, some revised⟩ ∧
        s.write call.owner revised = .ok (s.tryCall call).2 := by
  rw [tryCall_eq_ending]
  cases decided : call.decision s with
  | error e => exact .inl rfl
  | ok revision =>
    obtain ⟨-, -, decided⟩ := Outcome.bind_eq_ok.mp decided
    obtain ⟨sheet, hread, hrevise⟩ := Outcome.bind_eq_ok.mp decided
    obtain ⟨answer, written⟩ := revision
    cases written with
    | none => exact .inl rfl
    | some revised =>
      rw [ending_written]
      cases hwrite : s.write call.owner revised with
      | error e => exact .inl rfl
      | ok s' => exact .inr ⟨sheet, answer, revised, hread, hrevise, hwrite⟩

theorem tryCall_of_error {e : FeeError} (h : (s.tryCall call).1 = .error e) :
    (s.tryCall call).2 = s := by
  unfold tryCall at h ⊢
  cases called : s.call call with
  | error e' => rfl
  | ok ended =>
    rw [called] at h
    cases h

/-! ### Stores that agree about an owner -/

/-- The two stores refuse alike and have the same sheet of this owner. -/
structure AgreesAt (owner : Owner) (s s' : SheetStore) : Prop where
  unreadable : s.unreadable = s'.unreadable
  unwritable : s.unwritable = s'.unwritable
  sheet : s.sheets.get? owner = s'.sheets.get? owner

namespace AgreesAt

theorem refl (owner : Owner) (s : SheetStore) : AgreesAt owner s s := ⟨rfl, rfl, rfl⟩

theorem symm (h : AgreesAt owner s s') : AgreesAt owner s' s :=
  ⟨h.unreadable.symm, h.unwritable.symm, h.sheet.symm⟩

theorem trans (h : AgreesAt owner s s') (h' : AgreesAt owner s' s'') : AgreesAt owner s s'' :=
  ⟨h.unreadable.trans h'.unreadable, h.unwritable.trans h'.unwritable, h.sheet.trans h'.sheet⟩

theorem read_eq (h : AgreesAt owner s s') : s.read owner = s'.read owner := by
  unfold read
  rw [h.sheet, h.unreadable]

/-- A call about the owner has the same answer on both, and they agree about the owner again. -/
theorem tryCall (h : AgreesAt call.owner s s') :
    (s.tryCall call).1 = (s'.tryCall call).1 ∧
      AgreesAt call.owner (s.tryCall call).2 (s'.tryCall call).2 := by
  have decision : call.decision s = call.decision s' := by
    unfold ManagerCall.decision
    rw [h.read_eq]
  rw [tryCall_eq_ending, tryCall_eq_ending, decision]
  cases call.decision s' with
  | error e => exact ⟨rfl, h⟩
  | ok revision =>
    obtain ⟨answer, written⟩ := revision
    cases written with
    | none => exact ⟨rfl, h⟩
    | some sheet =>
      rw [ending_written, ending_written]
      unfold write
      rw [h.unwritable]
      by_cases refused : call.owner ∈ s'.unwritable
      · rw [if_pos refused, if_pos refused]
        exact ⟨rfl, h⟩
      · rw [if_neg refused, if_neg refused]
        exact ⟨rfl, h.unreadable, rfl, by simp⟩

end AgreesAt

/-- A call about another owner leaves the owner's part of the store alone. -/
theorem agreesAt_tryCall (s : SheetStore) (other : owner ≠ call.owner) :
    AgreesAt owner s (s.tryCall call).2 := by
  rcases tryCall_store s call with same | ⟨sheet, answer, revised, -, -, hwrite⟩
  · rw [same]
    exact .refl owner s
  · obtain ⟨-, written⟩ := write_eq_ok_iff.mp hwrite
    rw [written]
    exact ⟨rfl, rfl, by simp [other]⟩

/-- Stores that agree about every owner are one store. -/
theorem eq_of_agreesAt (agree : ∀ owner, AgreesAt owner s s') : s = s' := by
  have sheets : s.sheets = s'.sheets := Registry.ext fun owner => (agree owner).sheet
  obtain ⟨unreadable, unwritable, -⟩ := agree (.gateway "")
  cases s
  cases s'
  simp only at sheets unreadable unwritable
  rw [sheets, unreadable, unwritable]

/-! ### Runs, owner by owner

The calls of a run have names here, so that one call can be followed through runs that
order the calls differently.
-/

variable {ι γ : Type} (calls : ι → ManagerCall)

/-- The calls about this owner, in their order. -/
def callsOf (owner : Owner) (order : List ι) : List ι :=
  order.filter fun op => (calls op).owner = owner

variable {calls}

theorem callsOf_cons_own {op : ι} {rest : List ι} :
    callsOf calls (calls op).owner (op :: rest) = op :: callsOf calls (calls op).owner rest := by
  simp [callsOf]

theorem callsOf_cons_other {op : ι} {rest : List ι} (other : owner ≠ (calls op).owner) :
    callsOf calls owner (op :: rest) = callsOf calls owner rest := by
  simp [callsOf, other.symm]

variable (calls) in
/-- What a run does to an owner is what the calls about the owner do. -/
theorem AgreesAt.run (h : AgreesAt owner s s') (order : List ι) :
    AgreesAt owner (s.run ((callsOf calls owner order).map calls)).2
      (s'.run (order.map calls)).2 := by
  induction order generalizing s s' with
  | nil => exact h
  | cons op rest ih =>
    by_cases own : owner = (calls op).owner
    · subst own
      rw [callsOf_cons_own]
      exact ih h.tryCall.2
    · rw [callsOf_cons_other own]
      exact ih (h.trans (agreesAt_tryCall s' own))

/-- Calls about one owner have the same answers on stores that agree about the owner. -/
theorem AgreesAt.answers (h : AgreesAt owner s s') (order : List ι) :
    (s.run ((callsOf calls owner order).map calls)).1 =
      (s'.run ((callsOf calls owner order).map calls)).1 := by
  induction order generalizing s s' with
  | nil => rfl
  | cons op rest ih =>
    by_cases own : owner = (calls op).owner
    · subst own
      rw [callsOf_cons_own]
      exact List.cons_eq_cons.mpr ⟨h.tryCall.1, ih h.tryCall.2⟩
    · rw [callsOf_cons_other own]
      exact ih h

/-- Runs that order the calls about each owner alike leave the same store. -/
theorem run_eq_of_callsOf {order order' : List ι}
    (h : ∀ owner, callsOf calls owner order = callsOf calls owner order') (s : SheetStore) :
    (s.run (order.map calls)).2 = (s.run (order'.map calls)).2 := by
  refine eq_of_agreesAt fun owner => ?_
  have run := (AgreesAt.refl owner s).run calls order
  have run' := (AgreesAt.refl owner s).run calls order'
  rw [h owner] at run
  exact run.symm.trans run'

/-- Every call is answered as in the run of the calls about its owner. -/
theorem map_eq_run {order : List ι} {s : SheetStore} {stage : ι → γ}
    {ended : Except FeeError ChangeAnswer → γ}
    (h : ∀ owner, (callsOf calls owner order).map stage =
      (s.run ((callsOf calls owner order).map calls)).1.map ended) :
    order.map stage = (s.run (order.map calls)).1.map ended := by
  -- The first call is one call less for its own owner, and nothing for any other.
  induction order generalizing s with
  | nil => rfl
  | cons op rest ih =>
    have own := h (calls op).owner
    rw [callsOf_cons_own] at own
    obtain ⟨head, others⟩ := List.cons.inj own
    refine List.cons_eq_cons.mpr ⟨head, ih fun owner => ?_⟩
    by_cases same : owner = (calls op).owner
    · subst same
      exact others
    · have theirs := h owner
      rw [callsOf_cons_other same] at theirs
      rw [theirs, (agreesAt_tryCall s same).answers]

/-- Calls about two owners come to the same in either order. -/
theorem run_swap {call call' : ManagerCall} (ne : call.owner ≠ call'.owner) (s : SheetStore) :
    ∃ answer answer' s', s.run [call, call'] = ([answer, answer'], s') ∧
      s.run [call', call] = ([answer', answer], s') := by
  have perOwner : ∀ owner, callsOf id owner [call, call'] = callsOf id owner [call', call] := by
    intro owner
    by_cases first : call.owner = owner
    · simp [callsOf, first, show ¬ call'.owner = owner from first ▸ ne.symm]
    · simp [callsOf, List.filter_cons, first]
  have first := (agreesAt_tryCall s ne).tryCall.1
  have second := (agreesAt_tryCall s ne.symm).tryCall.1
  have stores := run_eq_of_callsOf perOwner s
  simp only [List.map_id, run] at stores
  exact ⟨_, _, _, rfl, by simp only [run, first, second, stores]⟩

end SheetStore

end SchoolFees

/-
Outcomes: when a chain of steps succeeds, and which of its failures it reports.

Every operation that can fail answers with an outcome, and the steps of an operation
run one after another until the first failure.  The lemmas below take such a chain
apart from the side of its answer: a success means that every step succeeded, a
failure means that some step failed and all before it succeeded.  Proofs about an
operation use them in place of a case split on every step.

Two runs of one operation are compared by their outcomes: either both succeed, with results
that agree, or both fail, with errors that do (`Outcome.Rel`).  Two calls are compared by
the moment of the answer as well (`Call.Rel`).
-/
import SchoolFees.Call
import SchoolFees.Config.Basic

namespace SchoolFees

namespace Outcome

variable {ε ε' α β : Type}

theorem bind_eq_ok {x : Except ε α} {f : α → Except ε β} {b : β} :
    (x >>= f) = .ok b ↔ ∃ a, x = .ok a ∧ f a = .ok b := by
  cases x with
  | error e => simp [bind, Except.bind]
  | ok a => simp [bind, Except.bind]

/-- A chain reports the failure of its first step, or else that of the rest. -/
theorem bind_eq_error {x : Except ε α} {f : α → Except ε β} {e : ε} :
    (x >>= f) = .error e ↔ x = .error e ∨ ∃ a, x = .ok a ∧ f a = .error e := by
  cases x with
  | error e' => simp [bind, Except.bind]
  | ok a => simp [bind, Except.bind]

theorem bind_pure_eq_error {x : Except ε α} {g : α → β} {e : ε} :
    (x >>= fun a => pure (g a)) = .error e ↔ x = .error e := by
  cases x with
  | error e' => simp [bind, Except.bind]
  | ok a => simp [bind, Except.bind, pure, Except.pure]

theorem mapError_eq_ok {x : Except ε α} {g : ε → ε'} {a : α} :
    x.mapError g = .ok a ↔ x = .ok a := by
  cases x with
  | error e =>
    show Except.error (g e) = .ok a ↔ _
    simp
  | ok b =>
    show Except.ok b = .ok a ↔ _
    simp

theorem mapError_eq_error {x : Except ε α} {g : ε → ε'} {e : ε'} :
    x.mapError g = .error e ↔ ∃ cause, x = .error cause ∧ g cause = e := by
  cases x with
  | error cause =>
    show Except.error (g cause) = .error e ↔ _
    simp
  | ok b =>
    show Except.ok b = .error e ↔ _
    simp

/-- An outcome is one success at most. -/
theorem ok_unique {x : Except ε α} {a a' : α} (h : x = .ok a) (h' : x = .ok a') : a' = a :=
  Except.ok.inj (h'.symm.trans h)

theorem toOption_eq_some_iff {x : Except ε α} {a : α} : x.toOption = some a ↔ x = .ok a := by
  cases x with
  | error e => simp [Except.toOption]
  | ok b => simp [Except.toOption]

/-- A check of every item succeeds when each of them passes. -/
theorem forM_eq_ok {check : α → Except ε PUnit} {items : List α} {u : PUnit} :
    items.forM check = .ok u ↔ ∀ a ∈ items, check a = .ok () := by
  induction items with
  | nil => simp [pure, Except.pure]
  | cons a rest ih =>
    show (check a >>= fun _ => rest.forM check) = .ok u ↔ _
    rw [bind_eq_ok, List.forall_mem_cons, ← ih]
    refine ⟨?_, ?_⟩
    · intro h
      obtain ⟨_, head, others⟩ := h
      exact ⟨head, others⟩
    · intro h
      exact ⟨(), h⟩

/-- A check of every item reports the first that does not pass. -/
theorem forM_of_first {check : α → Except ε PUnit} {before after : List α} {a : α} {e : ε}
    (passed : ∀ b ∈ before, check b = .ok ()) (failed : check a = .error e) :
    (before ++ a :: after).forM check = .error e := by
  induction before with
  | nil =>
    show (check a >>= fun _ => after.forM check) = .error e
    rw [failed]
    rfl
  | cons b rest ih =>
    obtain ⟨head, others⟩ := List.forall_mem_cons.mp passed
    show (check b >>= fun _ => (rest ++ a :: after).forM check) = .error e
    rw [head]
    exact ih others

/-- Every item passes, or there is a first one that does not. -/
theorem forall_or_first (check : α → Except ε PUnit) (items : List α) :
    (∀ a ∈ items, check a = .ok ()) ∨ ∃ before a after e, items = before ++ a :: after ∧
      (∀ b ∈ before, check b = .ok ()) ∧ check a = .error e := by
  induction items with
  | nil => exact .inl nofun
  | cons a rest ih =>
    cases checked : check a with
    | error e => exact .inr ⟨[], a, rest, e, rfl, nofun, checked⟩
    | ok _ =>
      rcases ih with passed | ⟨before, b, after, e, parts, passed, failed⟩
      · exact .inl (List.forall_mem_cons.mpr ⟨checked, passed⟩)
      · exact .inr ⟨a :: before, b, after, e, by rw [parts, List.cons_append],
          List.forall_mem_cons.mpr ⟨checked, passed⟩, failed⟩

/-! ### Two outcomes side by side -/

section Rel

variable {γ δ : Type} {errors : ε → ε' → Prop} {agree : α → β → Prop} {agree' : γ → δ → Prop}
  {x : Except ε α} {y : Except ε' β}

/-- Both succeed, with results that agree, or both fail, with errors that do. -/
inductive Rel (errors : ε → ε' → Prop) (agree : α → β → Prop) : Except ε α → Except ε' β → Prop
  | ok {a : α} {b : β} (h : agree a b) : Rel errors agree (.ok a) (.ok b)
  | error {e : ε} {f : ε'} (h : errors e f) : Rel errors agree (.error e) (.error f)

theorem Rel.refl {errors : ε → ε → Prop} {agree : α → α → Prop} (same_error : ∀ e, errors e e)
    (same : ∀ a, agree a a) (x : Except ε α) : Rel errors agree x x := by
  cases x with
  | error e => exact .error (same_error e)
  | ok a => exact .ok (same a)

/-- Where one of two related outcomes is a success, so is the other. -/
theorem Rel.exists_ok {a : α} (h : Rel errors agree x y) (succeeds : x = .ok a) :
    ∃ b, y = .ok b ∧ agree a b := by
  cases h with
  | ok h =>
    cases succeeds
    exact ⟨_, rfl, h⟩
  | error h => cases succeeds

/-- Chains of related steps are related. -/
theorem Rel.bind {f : α → Except ε γ} {g : β → Except ε' δ} (begins : Rel errors agree x y)
    (onward : ∀ a b, agree a b → Rel errors agree' (f a) (g b)) :
    Rel errors agree' (x >>= f) (y >>= g) := by
  cases begins with
  | ok h => exact onward _ _ h
  | error h => exact .error h

theorem Rel.mono_error {errors' : ε → ε' → Prop} (h : Rel errors agree x y)
    (weaker : ∀ e f, errors e f → errors' e f) : Rel errors' agree x y := by
  cases h with
  | ok h => exact .ok h
  | error h => exact .error (weaker _ _ h)

theorem Rel.toOption (h : Rel errors agree x y) : Option.Rel agree x.toOption y.toOption := by
  cases h with
  | ok h => exact .some h
  | error h => exact .none

end Rel

end Outcome

namespace Call

variable {α β γ δ : Type} {agree : α → β → Prop} {agree' : γ → δ → Prop} {c : Call α} {c' : Call β}
  {d : Call γ} {d' : Call δ}

/-- Two calls that answer at the same moment, with results that agree or with the same error. -/
structure Rel (agree : α → β → Prop) (c : Call α) (c' : Call β) : Prop where
  answer : Outcome.Rel Eq agree c.answer c'.answer
  elapsed : c.elapsed = c'.elapsed

theorem Rel.refuse (e : FeeError) : Rel agree (refuse e) (refuse e) := ⟨.error rfl, rfl⟩

theorem Rel.within (h : Rel agree c c') (limit : Duration) :
    Rel agree (c.within limit) (c'.within limit) := by
  unfold Call.within
  rw [h.elapsed]
  split
  · exact h
  · exact ⟨.error rfl, rfl⟩

theorem Rel.both (h : Rel agree c c') (h' : Rel agree' d d') :
    Rel (fun p q => agree p.1 q.1 ∧ agree' p.2 q.2) (c.both d) (c'.both d') := by
  obtain ⟨answers, elapsed⟩ := h
  obtain ⟨answers', elapsed'⟩ := h'
  unfold Call.both
  rw [elapsed, elapsed']
  generalize c.answer = x, c'.answer = y at answers ⊢
  generalize d.answer = x', d'.answer = y' at answers' ⊢
  cases answers with
  | ok first =>
    cases answers' with
    | ok second => exact ⟨.ok ⟨first, second⟩, rfl⟩
    | error same => exact ⟨.error same, rfl⟩
  | error same =>
    cases answers' with
    | ok second => exact ⟨.error same, rfl⟩
    | error same' =>
      dsimp only
      split
      · exact ⟨.error same', rfl⟩
      · exact ⟨.error same, rfl⟩

theorem Rel.andThen {f : Except FeeError α → Except FeeError γ}
    {g : Except FeeError β → Except FeeError δ} (h : Rel agree c c')
    (onward : ∀ x y, Outcome.Rel Eq agree x y → Outcome.Rel Eq agree' (f x) (g y)) :
    Rel agree' (c.andThen f) (c'.andThen g) := ⟨onward _ _ h.answer, h.elapsed⟩

end Call

theorem require_eq_ok {p : Prop} [Decidable p] {e : FeeError} {u : Unit} :
    require p e = .ok u ↔ p := by
  unfold require
  by_cases h : p
  · simp [h]
  · simp [h]

theorem require_eq_error {p : Prop} [Decidable p] {e e' : FeeError} :
    require p e = .error e' ↔ ¬ p ∧ e' = e := by
  unfold require
  by_cases h : p
  · simp [h]
  · simp [h, eq_comm]

/-- Two checks of one thing, which may name it differently, come to the same. -/
theorem require_rel {errors : FeeError → FeeError → Prop} {p q : Prop} [Decidable p] [Decidable q]
    {e e' : FeeError} (same : p ↔ q) (named : errors e e') :
    Outcome.Rel errors Eq (require p e) (require q e') := by
  unfold require
  by_cases h : p
  · rw [if_pos h, if_pos (same.mp h)]
    exact .ok rfl
  · rw [if_neg h, if_neg (mt same.mpr h)]
    exact .error named

/-- What a configuration that passes its check promises. -/
theorem Config.check_eq_ok {c : Config} :
    c.check = .ok () ↔
      ¬ Text.isAllBlank c.gatewayId ∧ c.maxConcurrency ≠ 0 ∧ c.callTimeout.millis ≠ 0 ∧
        ¬ c.gstRate < 0 ∧ ¬ c.mismatchTolerance < 0 := by
  simp only [Config.check, Outcome.bind_eq_ok, require_eq_ok]
  refine ⟨?_, ?_⟩
  · intro h
    obtain ⟨_, gateway, _, concurrency, _, timeout, _, rate, tolerance⟩ := h
    exact ⟨gateway, concurrency, timeout, rate, tolerance⟩
  · intro h
    obtain ⟨gateway, concurrency, timeout, rate, tolerance⟩ := h
    exact ⟨(), gateway, (), concurrency, (), timeout, (), rate, tolerance⟩

/-- The check refuses every rate that could not be applied. -/
theorem Config.checkRate_of_check {c : Config} (valid : c.check = .ok ()) :
    Gst.checkRate c.gstRate = .ok () := by
  obtain ⟨-, -, -, rate, -⟩ := Config.check_eq_ok.mp valid
  rw [Gst.checkRate, if_neg rate]

end SchoolFees

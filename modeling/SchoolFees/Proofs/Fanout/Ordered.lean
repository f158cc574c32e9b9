/-
Answers handed over in the order of the input.

A fan-out may hand its answers over in input order, whatever the order in which its jobs
land.  An answer that comes in early waits until all those before it have been handed
over.  `Line.Step` is one event of such a run: the next job starts, a job under way lands,
or the next answer is handed over.  A job may start when fewer than `width` are under way;
whoever makes it wait until an answer has been handed over as well has fewer runs, all of
which are among these.

Two things are kept at every step (`Line.Sound`): what has landed at a position is the
answer to the input at that position, and what has been handed over is the beginning of
the answers to the whole input.  So nothing that a job answers, and no delay of it, shows
at any other position.  A run that is not at its end can always go on
(`Line.Sound.exists_step`), and every event is one of at most three for each job, so every
run comes to an end (`Line.Sound.exists_ended`).
-/
import Mathlib.Logic.Relation
import SchoolFees.Proofs.Fanout.Landing

namespace SchoolFees

namespace Fanout

variable {α β : Type}

/-- How far a run has come whose answers are handed over in input order. -/
structure Line (α : Type) where
  /-- How many jobs have started; they are the first ones of the input. -/
  started : Nat
  /-- The answers that have come in, each with its position, in the order in which they did. -/
  landed : List (Nat × α)
  /-- The answers that have been handed over. -/
  handed : List α

namespace Line

/-- No job has started. -/
def start : Line α := ⟨0, [], []⟩

/-- The positions that have landed, in the order in which they did. -/
def order (l : Line α) : List Nat := l.landed.map (·.1)

/-- How many jobs have started and not landed. -/
def underWay (l : Line α) : Nat := l.started - l.landed.length

/-- How many events have brought the run so far. -/
def events (l : Line α) : Nat := l.started + l.landed.length + l.handed.length

/-- One event of a run in which `answer` is asked about each of the inputs. -/
inductive Step (width : Nat) (answer : β → α) (inputs : List β) : Line α → Line α → Prop
  /-- The next job starts, since one may. -/
  | starts {l : Line α} (more : l.started < inputs.length) (free : l.underWay < width) :
      Step width answer inputs l { l with started := l.started + 1 }
  /-- A job under way lands with its answer. -/
  | lands {l : Line α} {job : Nat} {input : β} (begun : job < l.started) (out : job ∉ l.order)
      (found : inputs[job]? = some input) :
      Step width answer inputs l { l with landed := l.landed ++ [(job, answer input)] }
  /-- The answer whose turn it is has landed, and is handed over. -/
  | hands {l : Line α} {a : α} (ready : (l.handed.length, a) ∈ l.landed) :
      Step width answer inputs l { l with handed := l.handed ++ [a] }

/-- The events so far lead from the start to here. -/
def Reached (width : Nat) (answer : β → α) (inputs : List β) : Line α → Prop :=
  Relation.ReflTransGen (Step width answer inputs) start

/-- As many answers have been handed over as there are inputs. -/
def Ended (jobs : Nat) (l : Line α) : Prop := l.handed.length = jobs

/-- What every run keeps. -/
structure Sound (width : Nat) (answer : β → α) (inputs : List β) (l : Line α) : Prop where
  /-- No job lands twice. -/
  nodup : l.order.Nodup
  /-- Only jobs of the input start, no more of them at once than the width allows. -/
  started : l.started ≤ min inputs.length (width + l.landed.length)
  /-- A job lands after it has started. -/
  begun : ∀ job ∈ l.order, job < l.started
  inWindow : InWindow width inputs.length l.order
  /-- What has landed at a position answers the input there. -/
  answers : ∀ job a, (job, a) ∈ l.landed → inputs[job]?.map answer = some a
  /-- What has been handed over had landed. -/
  taken : ∀ job < l.handed.length, job ∈ l.order
  /-- What has been handed over is where the answers to the input begin. -/
  handed : l.handed <+: inputs.map answer

variable {width : Nat} {answer : β → α} {inputs : List β} {l l' : Line α}

/-! ### Every event keeps the run sound -/

theorem sound_start : Sound width answer inputs start where
  nodup := List.nodup_nil
  started := Nat.zero_le _
  begun := nofun
  inWindow := fun _ h => absurd h (Nat.not_lt_zero _)
  answers := nofun
  taken := fun _ h => absurd h (Nat.not_lt_zero _)
  handed := List.nil_prefix

theorem length_order (l : Line α) : l.order.length = l.landed.length := List.length_map _

theorem Sound.starts (h : Sound width answer inputs l) (more : l.started < inputs.length)
    (free : l.underWay < width) :
    Sound width answer inputs { l with started := l.started + 1 } := by
  refine ⟨h.nodup, ?_, ?_, h.inWindow, h.answers, h.taken, h.handed⟩
  · show l.started + 1 ≤ min inputs.length (width + l.landed.length)
    unfold underWay at free
    omega
  · intro job landed
    exact Nat.lt_succ_of_lt (h.begun job landed)

theorem Sound.lands (h : Sound width answer inputs l) {job : Nat} {input : β}
    (begun : job < l.started) (out : job ∉ l.order) (found : inputs[job]? = some input) :
    Sound width answer inputs { l with landed := l.landed ++ [(job, answer input)] } := by
  have order : order { l with landed := l.landed ++ [(job, answer input)] } = l.order ++ [job] := by
    simp [Line.order]
  have started := h.started
  refine ⟨?_, ?_, ?_, ?_, ?_, ?_, h.handed⟩
  · rw [order]
    exact h.nodup.append (List.nodup_singleton job) (List.disjoint_singleton.mpr out)
  · show l.started ≤ min inputs.length (width + (l.landed ++ [(job, answer input)]).length)
    rw [List.length_append]
    omega
  · rw [order]
    intro other landed
    rcases List.mem_append.mp landed with landed | landed
    · exact h.begun other landed
    · rw [List.mem_singleton.mp landed]
      exact begun
  · rw [order, inWindow_append_singleton, length_order]
    exact ⟨h.inWindow, by omega⟩
  · intro other a landed
    rcases List.mem_append.mp landed with landed | landed
    · exact h.answers other a landed
    · cases List.mem_singleton.mp landed
      rw [found]
      rfl
  · rw [order]
    intro other taken
    exact List.mem_append_left _ (h.taken other taken)

theorem Sound.hands (h : Sound width answer inputs l) {a : α}
    (ready : (l.handed.length, a) ∈ l.landed) :
    Sound width answer inputs { l with handed := l.handed ++ [a] } := by
  refine ⟨h.nodup, h.started, h.begun, h.inWindow, h.answers, ?_, ?_⟩
  · intro job taken
    rw [List.length_append, List.length_singleton] at taken
    by_cases earlier : job < l.handed.length
    · exact h.taken job earlier
    · have last : job = l.handed.length := by omega
      rw [last]
      exact List.mem_map_of_mem (f := (·.1)) ready
  · -- The answer continues the beginning that has been handed over.
    obtain ⟨rest, joined⟩ := h.handed
    have answered := h.answers _ _ ready
    rw [← List.getElem?_map, ← joined, List.getElem?_append_right le_rfl, Nat.sub_self] at answered
    cases rest with
    | nil => cases answered
    | cons b tail =>
      cases answered
      exact ⟨tail, by rw [← joined, List.append_assoc, List.singleton_append]⟩

/-- **Each event keeps the run sound.** -/
theorem sound_step (h : Sound width answer inputs l) (step : Step width answer inputs l l') :
    Sound width answer inputs l' := by
  cases step with
  | starts more free => exact h.starts more free
  | lands begun out found => exact h.lands begun out found
  | hands ready => exact h.hands ready

/-- **Every run is sound.** -/
theorem Reached.sound (h : Reached width answer inputs l) : Sound width answer inputs l := by
  induction h with
  | refl => exact sound_start
  | tail _ step ih => exact sound_step ih step

namespace Sound

/-! ### How far a run can go -/

theorem underWay_le (h : Sound width answer inputs l) : l.underWay ≤ width := by
  have started := h.started
  unfold underWay
  omega

/-- Each job has had its start, its landing and its handing over at most. -/
theorem events_le (h : Sound width answer inputs l) : l.events ≤ 3 * inputs.length := by
  have started := h.started
  have landed : l.landed.length ≤ l.started := by
    have begun : l.order ⊆ List.range l.started := fun job landed =>
      List.mem_range.mpr (h.begun job landed)
    have fewer := (List.subperm_of_subset h.nodup begun).length_le
    rwa [length_order, List.length_range] at fewer
  have handed := h.handed.length_le
  rw [List.length_map] at handed
  unfold events
  omega

theorem events_step (step : Step width answer inputs l l') : l'.events = l.events + 1 := by
  cases step with
  | starts more free =>
    simp only [events]
    omega
  | lands begun out found =>
    simp only [events, List.length_append, List.length_singleton]
    omega
  | hands ready =>
    simp only [events, List.length_append, List.length_singleton]
    omega

/-- **No run gets stuck** before all answers have been handed over. -/
theorem exists_step (h : Sound width answer inputs l) (room : width ≠ 0)
    (unfinished : ¬ l.Ended inputs.length) : ∃ l', Step width answer inputs l l' := by
  have handed := h.handed.length_le
  rw [List.length_map] at handed
  have more : l.handed.length < inputs.length := lt_of_le_of_ne handed unfinished
  by_cases landed : l.handed.length ∈ l.order
  · obtain ⟨⟨_, a⟩, ready, rfl⟩ := List.mem_map.mp landed
    exact ⟨_, .hands ready⟩
  by_cases begun : l.handed.length < l.started
  · exact ⟨_, .lands begun landed (List.getElem?_eq_getElem more)⟩
  -- All that have started have been handed over, so nothing is under way.
  have landings : List.range l.started ⊆ l.order := by
    intro job started
    refine h.taken job ?_
    have := List.mem_range.mp started
    omega
  have enough := (List.subperm_of_subset List.nodup_range landings).length_le
  rw [length_order, List.length_range] at enough
  refine ⟨_, .starts (by omega) ?_⟩
  unfold underWay
  omega

/-- **Every run can be brought to its end.** -/
theorem exists_ended (h : Sound width answer inputs l) (room : width ≠ 0) :
    ∃ l', Relation.ReflTransGen (Step width answer inputs) l l' ∧ l'.Ended inputs.length := by
  generalize remaining : 3 * inputs.length - l.events = toCome
  induction toCome using Nat.strong_induction_on generalizing l with
  | _ toCome ih =>
    by_cases ended : l.Ended inputs.length
    · exact ⟨l, .refl, ended⟩
    · obtain ⟨l', step⟩ := h.exists_step room ended
      have sound := sound_step h step
      have bound := sound.events_le
      rw [events_step step] at bound
      obtain ⟨last, steps, ended⟩ :=
        ih (3 * inputs.length - l'.events) (by rw [events_step step]; omega) sound rfl
      exact ⟨last, steps.head step, ended⟩

/-! ### The end of a run -/

/-- **At the end every input has its answer, in its place.** -/
theorem handed_of_ended (h : Sound width answer inputs l) (ended : l.Ended inputs.length) :
    l.handed = inputs.map answer :=
  h.handed.eq_of_length (ended.trans (List.length_map _).symm)

theorem feasible (h : Sound width answer inputs l) : Feasible width inputs.length l.order :=
  feasible_iff.mpr ⟨h.nodup, h.inWindow⟩

/-- At the end every job has landed. -/
theorem length_order_of_ended (h : Sound width answer inputs l) (ended : l.Ended inputs.length) :
    l.order.length = inputs.length := by
  have landings : List.range inputs.length ⊆ l.order := by
    intro job bound
    refine h.taken job ?_
    rw [ended]
    exact List.mem_range.mp bound
  have enough := (List.subperm_of_subset List.nodup_range landings).length_le
  have fewer := (List.subperm_of_subset h.nodup fun job landed =>
    List.mem_range.mpr (lt_of_feasible h.feasible landed)).length_le
  rw [List.length_range] at enough fewer
  omega

end Sound

end Line

/-- What is gathered along any complete order is, in input order, what the jobs answer. -/
theorem inInputOrder_gather {outcomes : List α} {order : List Nat}
    (complete : order.Perm (List.range outcomes.length)) :
    inInputOrder (gather outcomes order) = outcomes := by
  show inInputOrder (collect (outcomes[·]?) order) = outcomes
  rw [inInputOrder_collect_of_complete complete]
  have positions := filterMap_getElem?_range some outcomes
  simpa only [Option.bind_fun_some, List.filterMap_some] using positions

end Fanout

end SchoolFees

/-
Which landing orders there are, and what a run gathers along one.

An order is feasible when no job lands twice and the job that lands after `k` others is
among the first `width + k` of the input: `k` slots have been freed by then, and jobs
start in input order (`feasible_iff`).  The induction is on the order from its end,
because a run is extended by the job that lands last.

What a run gathers and puts back into input order depends on which jobs have landed and
not on when they did (`inInputOrder_gather`): the pairs gathered carry their positions,
positions are all different, and so there is one way to sort them.
-/
import Mathlib.Data.List.Induction
import Mathlib.Data.List.Sort
import SchoolFees.Fanout

namespace SchoolFees

namespace Fanout

variable {α β : Type} {width jobs : Nat} {order : List Nat}

/-! ### Runs -/

/-- A run after these jobs have landed: for each of them another one has started. -/
def Progress.after (width jobs : Nat) (order : List Nat) : Progress :=
  ⟨min jobs (width + order.length), order⟩

/-- Each job that lands is among those that can have started by then. -/
def InWindow (width jobs : Nat) (order : List Nat) : Prop :=
  ∀ k (h : k < order.length), order[k] < min jobs (width + k)

theorem inWindow_append_singleton {job : Nat} :
    InWindow width jobs (order ++ [job]) ↔
      InWindow width jobs order ∧ job < min jobs (width + order.length) := by
  refine ⟨fun h => ⟨?_, ?_⟩, ?_⟩
  · intro k hk
    have hlast := h k (by simp; omega)
    rwa [List.getElem_append_left hk] at hlast
  · have hlast := h order.length (by simp)
    simpa using hlast
  · intro h k hk
    obtain ⟨horder, hjob⟩ := h
    by_cases hlt : k < order.length
    · rw [List.getElem_append_left hlt]
      exact horder k hlt
    · have hkeq : k = order.length := by simp at hk; omega
      subst hkeq
      simpa using hjob

theorem lt_of_inWindow (h : InWindow width jobs order) {job : Nat} (hjob : job ∈ order) :
    job < jobs := by
  obtain ⟨k, hk, rfl⟩ := List.getElem_of_mem hjob
  have := h k hk
  omega

/-- A job lands when it is under way, and the next one takes its slot. -/
theorem land?_after {job : Nat} :
    (Progress.after width jobs order).land? jobs job =
      if job < min jobs (width + order.length) ∧ job ∉ order then
        some (.after width jobs (order ++ [job]))
      else none := by
  have hnext : min jobs (min jobs (width + order.length) + 1) =
      min jobs (width + (order ++ [job]).length) := by
    rw [List.length_append, List.length_singleton]
    omega
  unfold Progress.land? Progress.InFlight Progress.after
  rw [hnext]
  rfl

/-- The jobs of an order land one after another when each is under way in its turn. -/
theorem landAll?_start_eq_some_iff {p : Progress} :
    (Progress.start width jobs).landAll? jobs order = some p ↔
      order.Nodup ∧ InWindow width jobs order ∧ p = .after width jobs order := by
  induction order using List.reverseRecOn generalizing p with
  | nil =>
    have hstart : Progress.start width jobs = .after width jobs [] := by
      simp [Progress.start, Progress.after, Nat.min_comm]
    show some (Progress.start width jobs) = some p ↔ _
    rw [hstart, Option.some.injEq]
    refine ⟨fun h => ⟨List.nodup_nil, fun k hk => absurd hk (by simp), h.symm⟩, ?_⟩
    intro h
    exact h.2.2.symm
  | append_singleton order job ih =>
    have hsplit : (Progress.start width jobs).landAll? jobs (order ++ [job]) =
        ((Progress.start width jobs).landAll? jobs order).bind (·.land? jobs job) := by
      simp [Progress.landAll?, List.foldlM_append]
    rw [hsplit, Option.bind_eq_some_iff, inWindow_append_singleton, List.nodup_append]
    refine ⟨?_, ?_⟩
    · intro h
      obtain ⟨q, hq, hland⟩ := h
      obtain ⟨hnodup, hwindow, rfl⟩ := ih.mp hq
      rw [land?_after] at hland
      by_cases hfly : job < min jobs (width + order.length) ∧ job ∉ order
      · rw [if_pos hfly, Option.some.injEq] at hland
        refine ⟨⟨hnodup, by simp, ?_⟩, ⟨hwindow, hfly.1⟩, hland.symm⟩
        intro a ha b hb hab
        have hbj : b = job := by simpa using hb
        exact hfly.2 (by rwa [hab, hbj] at ha)
      · rw [if_neg hfly] at hland
        cases hland
    · intro h
      obtain ⟨⟨hnodup, -, hdisjoint⟩, ⟨hwindow, hjob⟩, rfl⟩ := h
      have hnew : job ∉ order := fun hmem => hdisjoint job hmem job (by simp) rfl
      refine ⟨_, ih.mpr ⟨hnodup, hwindow, rfl⟩, ?_⟩
      rw [land?_after, if_pos ⟨hjob, hnew⟩]

/-- **The feasible orders.**  No job lands twice, and the job that lands after `k` others is among
the first `width + k`. -/
theorem feasible_iff :
    Feasible width jobs order ↔ order.Nodup ∧ InWindow width jobs order := by
  unfold Feasible
  rw [Option.isSome_iff_exists]
  refine ⟨?_, ?_⟩
  · intro h
    obtain ⟨p, hp⟩ := h
    obtain ⟨hnodup, hwindow, -⟩ := landAll?_start_eq_some_iff.mp hp
    exact ⟨hnodup, hwindow⟩
  · intro h
    exact ⟨_, landAll?_start_eq_some_iff.mpr ⟨h.1, h.2, rfl⟩⟩

theorem lt_of_feasible (h : Feasible width jobs order) {job : Nat} (hjob : job ∈ order) :
    job < jobs := lt_of_inWindow (feasible_iff.mp h).2 hjob

/-- Jobs can land in the order of the input, however few may be under way at once. -/
theorem feasible_inputOrder (room : width ≠ 0) : Feasible width jobs (inputOrder jobs) := by
  refine feasible_iff.mpr ⟨List.nodup_range, ?_⟩
  intro k bound
  unfold inputOrder at bound ⊢
  rw [List.length_range] at bound
  rw [List.getElem_range]
  omega

/-- A feasible order in which as many jobs land as there are holds every one of them. -/
theorem perm_range_of_feasible (h : Feasible width jobs order) (complete : order.length = jobs) :
    order.Perm (List.range jobs) := by
  have hsub : order ⊆ List.range jobs := fun job hjob => List.mem_range.mpr (lt_of_feasible h hjob)
  refine (List.subperm_of_subset (feasible_iff.mp h).1 hsub).perm_of_length_le ?_
  rw [List.length_range, complete]

/-- The jobs that have landed, in input order. -/
theorem perm_filter_range (nodup : order.Nodup) (bound : ∀ job ∈ order, job < jobs) :
    order.Perm ((List.range jobs).filter (· ∈ order)) := by
  refine (List.perm_ext_iff_of_nodup nodup (List.nodup_range.filter _)).mpr fun job => ?_
  rw [List.mem_filter, List.mem_range, decide_eq_true_eq]
  exact ⟨fun h => ⟨bound job h, h⟩, fun h => h.2⟩

/-! ### Gathering -/

/-- What is gathered at different positions in some order has one sorted form. -/
theorem inInputOrder_eq_of_perm {gathered sorted : List (Nat × α)} (perm : gathered.Perm sorted)
    (ascending : sorted.Pairwise fun a b => a.1 < b.1) :
    inInputOrder gathered = sorted.map (·.2) := by
  unfold inInputOrder
  congr 1
  have hperm := (List.mergeSort_perm gathered fun a b => a.1 ≤ b.1).trans perm
  have hsorted : (gathered.mergeSort fun a b => decide (a.1 ≤ b.1)).Pairwise
      fun a b => decide (a.1 ≤ b.1) = true :=
    List.pairwise_mergeSort (fun a b c => by simp only [decide_eq_true_eq]; omega)
      (fun a b => by simp only [Bool.or_eq_true, decide_eq_true_eq]; omega) gathered
  refine @List.Perm.eq_of_pairwise (Nat × α) (fun a b => a.1 ≤ b.1) _ _ ?_ ?_ ?_ hperm
  · -- Pairs at one position are the same pair, since the positions of `sorted` ascend.
    intro a b ha hb hab hba
    have hkeys : sorted.Pairwise fun a b => a.1 ≠ b.1 := ascending.imp fun h => Nat.ne_of_lt h
    have hnodup : (sorted.map (·.1)).Nodup := List.pairwise_map.mpr hkeys
    exact List.inj_on_of_nodup_map hnodup (hperm.subset ha) hb (Nat.le_antisymm hab hba)
  · exact hsorted.imp fun h => by simpa using h
  · exact ascending.imp fun h => Nat.le_of_lt h

theorem mem_inInputOrder {a : α} {gathered : List (Nat × α)} :
    a ∈ inInputOrder gathered ↔ ∃ job, (job, a) ∈ gathered := by
  unfold inInputOrder
  simp only [List.mem_map, List.mem_mergeSort, Prod.exists, exists_eq_right]

/-- What comes in along an order when job `i` yields `yield i`, each with its position. -/
def collect (yield : Nat → Option β) (order : List Nat) : List (Nat × β) :=
  order.filterMap fun i => (yield i).map fun y => (i, y)

variable {yield : Nat → Option β}

theorem collect_append (more : List Nat) :
    collect yield (order ++ more) = collect yield order ++ collect yield more := by
  simp [collect]

theorem mem_collect {i : Nat} {y : β} :
    (i, y) ∈ collect yield order ↔ i ∈ order ∧ yield i = some y := by
  unfold collect
  rw [List.mem_filterMap]
  refine ⟨?_, ?_⟩
  · intro h
    obtain ⟨j, hj, hy⟩ := h
    obtain ⟨x, hx, hxy⟩ := Option.map_eq_some_iff.mp hy
    cases hxy
    exact ⟨hj, hx⟩
  · intro h
    exact ⟨i, h.1, by rw [h.2]; rfl⟩

theorem map_fst_collect :
    (collect yield order).map (·.1) = order.filter fun i => (yield i).isSome := by
  unfold collect
  induction order with
  | nil => rfl
  | cons i rest ih =>
    cases hy : yield i with
    | none => simp [hy, ih]
    | some y => simp [hy, ih]

theorem map_snd_collect : (collect yield order).map (·.2) = order.filterMap yield := by
  unfold collect
  rw [List.map_filterMap]
  congr 1
  funext i
  cases yield i with
  | none => rfl
  | some y => rfl

theorem collect_perm {order' : List Nat} (h : order.Perm order') :
    (collect yield order).Perm (collect yield order') := h.filterMap _

theorem collect_ascending (ascending : order.Pairwise (· < ·)) :
    (collect yield order).Pairwise fun a b => a.1 < b.1 := by
  refine List.pairwise_map.mp ?_
  rw [map_fst_collect]
  exact ascending.filter _

/-- **Put back into input order, a run yields what the jobs that have landed yield, from the first
of the input to the last.** -/
theorem inInputOrder_collect (nodup : order.Nodup) (bound : ∀ job ∈ order, job < jobs) :
    inInputOrder (collect yield order) =
      ((List.range jobs).filter (· ∈ order)).filterMap yield := by
  rw [inInputOrder_eq_of_perm (collect_perm (perm_filter_range nodup bound))
    (collect_ascending (List.pairwise_lt_range.filter _)), map_snd_collect]

/-- When all jobs have landed, that is what the jobs yield. -/
theorem inInputOrder_collect_of_complete (complete : order.Perm (List.range jobs)) :
    inInputOrder (collect yield order) = (List.range jobs).filterMap yield := by
  rw [inInputOrder_eq_of_perm (collect_perm complete) (collect_ascending List.pairwise_lt_range),
    map_snd_collect]

theorem filterMap_getElem?_range (f : α → Option β) (outcomes : List α) :
    (List.range outcomes.length).filterMap (fun i => outcomes[i]?.bind f) =
      outcomes.filterMap f := by
  induction outcomes with
  | nil => rfl
  | cons x rest ih =>
    rw [List.length_cons, List.range_succ_eq_map, List.filterMap_cons, List.filterMap_map,
      List.filterMap_cons, ← ih]
    rfl

end Fanout

end SchoolFees

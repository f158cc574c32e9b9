/-
A reconciliation step by step, with a cancel at any moment of it.

Schools start in input order, as many as the width allows.  Any school under way may be
the next to land, with its record or its failure.  When all have landed the run finds its
end, and until then the cancel may come in at any moment, also behind the last landing:
`Step` is one such event and `Run` a sequence of them from the start.

Everything that a run has gathered can be read off the order in which schools have
landed.  That is the invariant (`Traced`), and `traced_step` shows that each event keeps
it: a landing appends to the order and to one of the two lists, a cancel and the end to
neither.
-/
import SchoolFees.Proofs.Settlement.Schools

namespace SchoolFees

/-- Where a run stands. -/
inductive RunStage where
  | running
  /-- The run has found that no school is left. -/
  | done
  /-- A cancel came in before that. -/
  | cancelled
deriving DecidableEq

/-- How far the reconciliation of a batch has come, and what it has gathered. -/
structure Gathering where
  progress : Fanout.Progress
  /-- The records with the positions they are of, in the order in which they came in. -/
  records : List (Nat × ReconciliationRecord)
  /-- The skipped schools with their positions, in the order in which they came in. -/
  skipped : List (Nat × String)
  stage : RunStage

/-- What may happen next to a batch. -/
inductive BatchEvent where
  /-- The school at this position lands. -/
  | lands (job : Nat)
  /-- No school is left. -/
  | ends
  | cancel
deriving DecidableEq

/-- The positions that landed, in the order in which they did. -/
def BatchEvent.landings (events : List BatchEvent) : List Nat :=
  events.filterMap fun
    | .lands job => some job
    | .ends | .cancel => none

namespace Gathering

/-- Nothing has landed yet. -/
def start (width jobs : Nat) : Gathering := ⟨.start width jobs, [], [], .running⟩

/-- The positions that have an entry in one of the lists, once for each entry. -/
def positions (g : Gathering) : List Nat := g.records.map (·.1) ++ g.skipped.map (·.1)

/-- The report on what has been gathered. -/
def report (g : Gathering) (run : RunId) (window : DateWindow) : ReconciliationReport where
  run
  writtenAt := none
  window
  records := Fanout.inInputOrder g.records
  skipped := g.skipped.map (·.2)
  cancelled := g.stage = .cancelled

end Gathering

namespace Reconciler

variable (r : Reconciler) (window : DateWindow) (schools : List School)

/-- One event of a reconciliation. -/
inductive Step : Gathering → BatchEvent → Gathering → Prop
  /-- A school under way lands with its record. -/
  | record {g : Gathering} {job : Nat} {progress : Fanout.Progress} {school : School}
      {record : ReconciliationRecord} (running : g.stage = .running)
      (landed : g.progress.land? schools.length job = some progress)
      (found : schools[job]? = some school)
      (answer : (r.reconcileSchool window school).answer = .ok record) :
      Step g (.lands job) { g with progress, records := g.records ++ [(job, record)] }
  /-- A school under way lands with its failure. -/
  | skip {g : Gathering} {job : Nat} {progress : Fanout.Progress} {school : School}
      {e : FeeError} (running : g.stage = .running)
      (landed : g.progress.land? schools.length job = some progress)
      (found : schools[job]? = some school)
      (answer : (r.reconcileSchool window school).answer = .error e) :
      Step g (.lands job) { g with progress, skipped := g.skipped ++ [(job, school.id)] }
  /-- The run asks for the next school to land, and all have. -/
  | finish {g : Gathering} (running : g.stage = .running)
      (finished : g.progress.landed.length = schools.length) :
      Step g .ends { g with stage := .done }
  /-- A cancel comes in while the run goes on, and what is under way is dropped.  It is not looked
  at whether anything is. -/
  | cancel {g : Gathering} (running : g.stage = .running) :
      Step g .cancel { g with stage := .cancelled }

/-- The events that can happen to a batch, and what has been gathered after them. -/
inductive Run : List BatchEvent → Gathering → Prop
  | start : Run [] (.start r.config.maxConcurrency schools.length)
  | step {events : List BatchEvent} {event : BatchEvent} {g g' : Gathering}
      (run : Run events g) (happens : Step r window schools g event g') : Run (events ++ [event]) g'

/-- A cancel is among the events before which fewer schools had landed than there are. -/
def CutShort (jobs : Nat) (events : List BatchEvent) : Prop :=
  ∃ before after, events = before ++ .cancel :: after ∧
    (BatchEvent.landings before).length < jobs

/-- What has been gathered is what the positions yield that have landed. -/
structure Traced (events : List BatchEvent) (g : Gathering) : Prop where
  nodup : (BatchEvent.landings events).Nodup
  inWindow : Fanout.InWindow r.config.maxConcurrency schools.length (BatchEvent.landings events)
  progress :
    g.progress = .after r.config.maxConcurrency schools.length (BatchEvent.landings events)
  records :
    g.records = Fanout.collect (r.recordAt? window schools) (BatchEvent.landings events)
  skipped : g.skipped = Fanout.collect (r.skipAt? schools) (BatchEvent.landings events)
  cancelled : g.stage = .cancelled ↔ .cancel ∈ events
  done : g.stage = .done ↔ .ends ∈ events
  finished : g.stage = .done → (BatchEvent.landings events).length = schools.length
  /-- A run is cut short by a cancel that leaves schools out. -/
  cut : CutShort schools.length events ↔
    g.stage = .cancelled ∧ (BatchEvent.landings events).length < schools.length

variable {r window schools} {events : List BatchEvent} {g g' : Gathering}

/-! ### Every event keeps the invariant -/

theorem landings_append (more : List BatchEvent) :
    BatchEvent.landings (events ++ more) =
      BatchEvent.landings events ++ BatchEvent.landings more := by
  simp [BatchEvent.landings]

theorem cutShort_append_singleton {jobs : Nat} {event : BatchEvent} :
    CutShort jobs (events ++ [event]) ↔
      CutShort jobs events ∨ event = .cancel ∧ (BatchEvent.landings events).length < jobs := by
  refine ⟨?_, ?_⟩
  · intro h
    obtain ⟨before, after, heq, hlt⟩ := h
    -- The cancel is the last event when nothing comes after it.
    rcases List.eq_nil_or_concat after with rfl | ⟨rest, last, rfl⟩
    · obtain ⟨rfl, hlast⟩ := List.append_inj' heq rfl
      cases hlast
      exact Or.inr ⟨rfl, hlt⟩
    · rw [List.concat_eq_append, ← List.cons_append, ← List.append_assoc] at heq
      obtain ⟨rfl, -⟩ := List.append_inj' heq rfl
      exact Or.inl ⟨before, rest, rfl, hlt⟩
  · intro h
    rcases h with ⟨before, after, rfl, hlt⟩ | ⟨rfl, hlt⟩
    · exact ⟨before, after ++ [event], by simp, hlt⟩
    · exact ⟨events, [], rfl, hlt⟩

theorem traced_start :
    Traced r window schools [] (.start r.config.maxConcurrency schools.length) where
  nodup := List.nodup_nil
  inWindow := fun k hk => absurd hk (Nat.not_lt_zero k)
  progress := by
    simp [Gathering.start, Fanout.Progress.start, Fanout.Progress.after, Nat.min_comm,
      BatchEvent.landings]
  records := rfl
  skipped := rfl
  cancelled := by simp [Gathering.start]
  done := by simp [Gathering.start]
  finished := nofun
  cut := by simp [Gathering.start, CutShort]

theorem not_cutShort_of_running (h : Traced r window schools events g)
    (running : g.stage = .running) : ¬ CutShort schools.length events := by
  rw [h.cut, running]
  exact fun cut => nomatch cut.1

/-- A landing keeps the invariant when it appends what the position yields. -/
theorem Traced.lands {job : Nat} (h : Traced r window schools events g)
    (running : g.stage = .running)
    (landed : g.progress.land? schools.length job = some g'.progress)
    (records : g'.records = g.records ++ Fanout.collect (r.recordAt? window schools) [job])
    (skipped : g'.skipped = g.skipped ++ Fanout.collect (r.skipAt? schools) [job])
    (stage : g'.stage = g.stage) :
    Traced r window schools (events ++ [.lands job]) g' := by
  have horder : BatchEvent.landings (events ++ [.lands job]) =
      BatchEvent.landings events ++ [job] := landings_append _
  have hall : (Fanout.Progress.start r.config.maxConcurrency schools.length).landAll?
      schools.length (BatchEvent.landings events ++ [job]) = some g'.progress := by
    have hbefore := Fanout.landAll?_start_eq_some_iff.mpr ⟨h.nodup, h.inWindow, h.progress⟩
    unfold Fanout.Progress.landAll? at hbefore ⊢
    rw [List.foldlM_append, hbefore]
    simpa using landed
  obtain ⟨nodup, inWindow, progress⟩ := Fanout.landAll?_start_eq_some_iff.mp hall
  rw [← horder] at nodup inWindow progress
  refine ⟨nodup, inWindow, progress, ?_, ?_, ?_, ?_, ?_, ?_⟩
  · rw [records, h.records, horder, Fanout.collect_append]
  · rw [skipped, h.skipped, horder, Fanout.collect_append]
  · rw [stage, h.cancelled]
    simp
  · rw [stage, h.done]
    simp
  · rw [stage, running]
    exact nofun
  · rw [cutShort_append_singleton, stage, running]
    simp [not_cutShort_of_running h running]

/-- An event behind which nothing goes on keeps the invariant. -/
theorem Traced.stops {event : BatchEvent} {stage : RunStage}
    (h : Traced r window schools events g) (running : g.stage = .running)
    (nothing : BatchEvent.landings [event] = []) (cancelled : stage = .cancelled ↔ .cancel = event)
    (ended : stage = .done ↔ .ends = event)
    (finished : stage = .done → (BatchEvent.landings events).length = schools.length) :
    Traced r window schools (events ++ [event]) { g with stage } := by
  have horder : BatchEvent.landings (events ++ [event]) = BatchEvent.landings events := by
    rw [landings_append, nothing, List.append_nil]
  have uncancelled : .cancel ∉ events := by
    rw [← h.cancelled, running]
    exact nofun
  have undone : .ends ∉ events := by
    rw [← h.done, running]
    exact nofun
  refine ⟨?_, ?_, ?_, ?_, ?_, ?_, ?_, ?_, ?_⟩
  · rw [horder]
    exact h.nodup
  · rw [horder]
    exact h.inWindow
  · rw [horder]
    exact h.progress
  · rw [horder]
    exact h.records
  · rw [horder]
    exact h.skipped
  · simp [uncancelled, cancelled]
  · simp [undone, ended]
  · rw [horder]
    exact finished
  · rw [cutShort_append_singleton, horder, or_iff_right (not_cutShort_of_running h running),
      cancelled, eq_comm]

/-- **Each event keeps the invariant.** -/
theorem traced_step {event : BatchEvent} (h : Traced r window schools events g)
    (step : Step r window schools g event g') :
    Traced r window schools (events ++ [event]) g' := by
  cases step with
  | record running landed found answer =>
    refine h.lands running landed ?_ ?_ rfl
    · simp [Fanout.collect, recordAt?, found, record?_of_ok answer]
    · simp [Fanout.collect, skipAt?, found, skip?_of_ok answer]
  | skip running landed found answer =>
    refine h.lands running landed ?_ ?_ rfl
    · simp [Fanout.collect, recordAt?, found, record?_of_error answer]
    · simp [Fanout.collect, skipAt?, found, skip?_of_error answer]
  | finish running finished =>
    rw [h.progress] at finished
    exact h.stops running rfl (by decide) (by decide) fun _ => finished
  | cancel running =>
    exact h.stops running rfl (by decide) (by decide) fun same => absurd same (by decide)

/-- **Every run has the invariant.** -/
theorem Run.traced (h : Run r window schools events g) : Traced r window schools events g := by
  induction h with
  | start => exact traced_start
  | step _ happens ih => exact traced_step ih happens

end Reconciler

end SchoolFees

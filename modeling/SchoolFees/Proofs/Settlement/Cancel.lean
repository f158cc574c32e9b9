/-
What a cancel leaves of a reconciliation.

Each position that has landed has one entry, a record or a skip, and no other position
has any (`Traced.positions_perm`); what the entry says is fixed before the run begins.
So a cancel takes entries away and changes none: the records of a run that is cut short
are among those of any run that is not, in the same order, and what it has skipped is
where the skips of its continuation begin.

A report says that it was cancelled when a cancel came in before the run found its end.
That is not quite when something is missing from it: behind the last landing there is a
moment at which the end is still to be found, and a cancel that comes in then is told of
although it finds nothing to drop (`cancelled_without_loss`).

Reports by steps and reports by landing orders are the same: a run has the report of the
order in which its schools landed (`report_of_run`), and every feasible order is that of
a run that has ended (`exists_ended_run`), the clock's included.
-/
import SchoolFees.Proofs.Settlement.Steps
import SchoolFees.Proofs.Settlement.WholeBatch

namespace SchoolFees

theorem Gathering.cancelled_report {g : Gathering} {run : RunId} {window : DateWindow} :
    (g.report run window).cancelled = true ↔ g.stage = .cancelled := decide_eq_true_iff

/-- A run that goes on no longer, and was not cancelled, has found its end. -/
theorem Gathering.done_of_uncancelled {g : Gathering} {run : RunId} {window : DateWindow}
    (ended : g.stage ≠ .running) (uncancelled : (g.report run window).cancelled = false) :
    g.stage = .done := by
  cases stage : g.stage with
  | running => exact absurd stage ended
  | done => rfl
  | cancelled =>
    rw [Gathering.cancelled_report.mpr stage] at uncancelled
    cases uncancelled

namespace Reconciler

variable {r : Reconciler} {run : RunId} {window : DateWindow} {schools : List School}
  {events events' : List BatchEvent} {g g' : Gathering} {order : List Nat}

/-! ### Entries -/

namespace Traced

theorem landed (h : Traced r window schools events g) :
    g.progress.landed = BatchEvent.landings events := by
  rw [h.progress]
  rfl

theorem started (h : Traced r window schools events g) :
    g.progress.started =
      min schools.length (r.config.maxConcurrency + (BatchEvent.landings events).length) := by
  rw [h.progress]
  rfl

theorem lt_length (h : Traced r window schools events g) {i : Nat}
    (hi : i ∈ BatchEvent.landings events) : i < schools.length :=
  Fanout.lt_of_inWindow h.inWindow hi

/-- **The positions with an entry are those that have landed, each of them once.** -/
theorem positions_perm (h : Traced r window schools events g) :
    g.positions.Perm (BatchEvent.landings events) := by
  unfold Gathering.positions
  rw [h.records, h.skipped, Fanout.map_fst_collect, Fanout.map_fst_collect]
  have hskips : (BatchEvent.landings events).filter (fun i => (r.skipAt? schools i).isSome) =
      (BatchEvent.landings events).filter
        (fun i => !(r.recordAt? window schools i).isSome) :=
    List.filter_congr fun i hi => isSome_skipAt? (h.lt_length hi)
  rw [hskips]
  exact List.filter_append_perm _ _

/-- A position under way or not started has not landed. -/
theorem not_landed (h : Traced r window schools events g) {i : Nat}
    (hi : g.progress.InFlight i ∨ g.progress.started ≤ i) :
    i ∉ BatchEvent.landings events := by
  intro hmem
  rcases hi with hflight | hlater
  · rw [← h.landed] at hmem
    exact hflight.2 hmem
  · obtain ⟨k, hk, rfl⟩ := List.getElem_of_mem hmem
    have hwindow := h.inWindow k hk
    have hstarted := h.started
    omega

/-- No more schools are under way than the width allows. -/
theorem length_inFlight_le (h : Traced r window schools events g) :
    ((List.range schools.length).filter (g.progress.InFlight ·)).length ≤
      r.config.maxConcurrency := by
  have hstarted := h.started
  -- Those under way and those that have landed are different schools, and all have started.
  have hnodup : ((List.range schools.length).filter (g.progress.InFlight ·) ++
      BatchEvent.landings events).Nodup := by
    refine List.nodup_append.mpr ⟨List.nodup_range.filter _, h.nodup, ?_⟩
    intro i hi j hj hij
    have hflight : g.progress.InFlight i := of_decide_eq_true (List.mem_filter.mp hi).2
    rw [← h.landed, ← hij] at hj
    exact hflight.2 hj
  have hsub : (List.range schools.length).filter (g.progress.InFlight ·) ++
      BatchEvent.landings events ⊆ List.range g.progress.started := by
    intro i hi
    rw [List.mem_range]
    rcases List.mem_append.mp hi with hflight | hlanded
    · exact (of_decide_eq_true (List.mem_filter.mp hflight).2 : g.progress.InFlight i).1
    · obtain ⟨k, hk, rfl⟩ := List.getElem_of_mem hlanded
      have hwindow := h.inWindow k hk
      omega
  have hlength := (List.subperm_of_subset hnodup hsub).length_le
  rw [List.length_append, List.length_range] at hlength
  omega

theorem perm_range (h : Traced r window schools events g)
    (complete : (BatchEvent.landings events).length = schools.length) :
    (BatchEvent.landings events).Perm (List.range schools.length) :=
  Fanout.perm_range_of_feasible (Fanout.feasible_iff.mpr ⟨h.nodup, h.inWindow⟩) complete

theorem length_landings_le (h : Traced r window schools events g) :
    (BatchEvent.landings events).length ≤ schools.length := by
  have hall := List.subperm_of_subset h.nodup fun i hi => List.mem_range.mpr (h.lt_length hi)
  simpa using hall.length_le

/-- Where all schools have landed, every position has an entry. -/
theorem positions_perm_range (h : Traced r window schools events g)
    (whole : (BatchEvent.landings events).length = schools.length) :
    g.positions.Perm (List.range schools.length) :=
  h.positions_perm.trans (h.perm_range whole)

/-- Where some have not, a position has none. -/
theorem exists_missing (h : Traced r window schools events g)
    (short : (BatchEvent.landings events).length < schools.length) :
    ∃ i < schools.length, i ∉ g.positions := by
  by_contra! present
  have hsub : List.range schools.length ⊆ BatchEvent.landings events := fun i hi =>
    h.positions_perm.mem_iff.mp (present i (List.mem_range.mp hi))
  have hlength := (List.subperm_of_subset List.nodup_range hsub).length_le
  rw [List.length_range] at hlength
  omega

/-- A record is of the school at its position. -/
theorem named_of_mem_records (h : Traced r window schools events g) {i : Nat}
    {record : ReconciliationRecord} (hmem : (i, record) ∈ g.records) :
    schools[i]? = some record.school := by
  rw [h.records] at hmem
  obtain ⟨school, hschool, hrecord⟩ := Option.bind_eq_some_iff.mp (Fanout.mem_collect.mp hmem).2
  obtain ⟨-, hsome⟩ := Option.ite_none_right_eq_some.mp hrecord
  cases hsome
  rw [school_comparison, hschool]

/-- A skip is of the school at its position. -/
theorem named_of_mem_skipped (h : Traced r window schools events g) {i : Nat} {id : String}
    (hmem : (i, id) ∈ g.skipped) : schools[i]?.map (·.id) = some id := by
  rw [h.skipped] at hmem
  obtain ⟨school, hschool, hskip⟩ := Option.bind_eq_some_iff.mp (Fanout.mem_collect.mp hmem).2
  obtain ⟨-, hsome⟩ := Option.ite_none_left_eq_some.mp hskip
  cases hsome
  rw [hschool]
  rfl

/-- What the report has of the positions that landed, read along the input. -/
theorem inInputOrder_records (h : Traced r window schools events g) :
    Fanout.inInputOrder g.records =
      ((List.range schools.length).filter (· ∈ BatchEvent.landings events)).filterMap
        (r.recordAt? window schools) := by
  rw [h.records]
  exact Fanout.inInputOrder_collect h.nodup fun i hi => h.lt_length hi

theorem map_snd_skipped (h : Traced r window schools events g) :
    g.skipped.map (·.2) = (BatchEvent.landings events).filterMap (r.skipAt? schools) := by
  rw [h.skipped, Fanout.map_snd_collect]

end Traced

/-! ### Reports of runs -/

/-- A run has the report of its landing order, and the flag of its cancel. -/
theorem report_of_run (h : Run r window schools events g) (run : RunId)
    (nonempty : schools ≠ []) :
    r.report run schools window g.progress.landed (g.stage = .cancelled) =
      .ok (g.report run window) := by
  have traced := h.traced
  rw [report_eq_ok, traced.landed, ← traced.records, ← traced.map_snd_skipped]
  exact ⟨nonempty, rfl⟩

/-- A run that has found its end has one of the reports that are possible without a cancel. -/
theorem possible_of_done (h : Run r window schools events g) (ended : g.stage = .done) (run : RunId)
    (nonempty : schools ≠ []) : r.Possible run schools window (g.report run window) := by
  have traced := h.traced
  have reported := report_of_run h run nonempty
  rw [traced.landed, ended] at reported
  have feasible := Fanout.feasible_iff.mpr ⟨traced.nodup, traced.inWindow⟩
  exact ⟨_, feasible, traced.finished ended, reported⟩

theorem landings_map_lands : BatchEvent.landings (order.map .lands) = order := by
  unfold BatchEvent.landings
  rw [List.filterMap_map]
  exact List.filterMap_some

theorem exists_run_of_feasible (window : DateWindow)
    (feasible : Fanout.Feasible r.config.maxConcurrency schools.length order) :
    ∃ g, Run r window schools (order.map .lands) g ∧ g.stage = .running := by
  induction order using List.reverseRecOn with
  | nil => exact ⟨_, .start, rfl⟩
  | append_singleton order job ih =>
    obtain ⟨nodup, inWindow⟩ := Fanout.feasible_iff.mp feasible
    obtain ⟨inWindow', hjob⟩ := Fanout.inWindow_append_singleton.mp inWindow
    obtain ⟨nodup', -, hdisjoint⟩ := List.nodup_append.mp nodup
    have hnew : job ∉ order := fun hmem => hdisjoint job hmem job (by simp) rfl
    obtain ⟨g, hrun, running⟩ := ih (Fanout.feasible_iff.mpr ⟨nodup', inWindow'⟩)
    have hland : g.progress.land? schools.length job =
        some (.after r.config.maxConcurrency schools.length (order ++ [job])) := by
      rw [hrun.traced.progress, landings_map_lands, Fanout.land?_after, if_pos ⟨hjob, hnew⟩]
    have hlt : job < schools.length := by omega
    rw [List.map_append]
    cases hanswer : (r.reconcileSchool window schools[job]).answer with
    | ok record =>
      exact ⟨_, hrun.step (.record running hland (List.getElem?_eq_getElem hlt) hanswer), running⟩
    | error e =>
      exact ⟨_, hrun.step (.skip running hland (List.getElem?_eq_getElem hlt) hanswer), running⟩

/-- Every feasible order is that of a run that has ended, by a cancel if schools are left. -/
theorem exists_ended_run (window : DateWindow)
    (feasible : Fanout.Feasible r.config.maxConcurrency schools.length order) :
    ∃ events g, Run r window schools events g ∧ g.stage ≠ .running ∧
      g.progress.landed = order ∧ (g.stage = .cancelled ↔ order.length < schools.length) := by
  obtain ⟨g, hrun, running⟩ := exists_run_of_feasible window feasible
  have hlanded : g.progress.landed = order := by rw [hrun.traced.landed, landings_map_lands]
  by_cases unfinished : order.length < schools.length
  · exact ⟨_, _, hrun.step (.cancel running), nofun, hlanded, iff_of_true rfl unfinished⟩
  · have hle := hrun.traced.length_landings_le
    rw [landings_map_lands] at hle
    have finished : g.progress.landed.length = schools.length := by
      rw [hlanded]
      omega
    exact ⟨_, _, hrun.step (.finish running finished), nofun, hlanded,
      iff_of_false nofun unfinished⟩

/-! ### Cancelled reconciliations -/

/-- What a run has gathered is sound, wherever it stands and whether or not it was cancelled. -/
structure Intact (r : Reconciler) (window : DateWindow) (schools : List School)
    (events : List BatchEvent) (g : Gathering) : Prop where
  /-- As many schools are under way as the width allows, or fewer. -/
  bounded : ((List.range schools.length).filter (g.progress.InFlight ·)).length ≤
    r.config.maxConcurrency
  /-- No position has two entries. -/
  once : g.positions.Nodup
  /-- A position that has landed has an entry. -/
  landed : ∀ i ∈ g.progress.landed, i ∈ g.positions
  /-- A position that is under way or has not started has none. -/
  dropped : ∀ i, g.progress.InFlight i ∨ g.progress.started ≤ i → i ∉ g.positions
  /-- An entry names the school at its position. -/
  named : (∀ i record, (i, record) ∈ g.records → schools[i]? = some record.school) ∧
    ∀ i id, (i, id) ∈ g.skipped → schools[i]?.map (·.id) = some id
  /-- The records of the report stand in the order of their positions. -/
  ascending : ∃ sorted : List (Nat × ReconciliationRecord), sorted.Perm g.records ∧
    sorted.Pairwise (fun a b => a.1 < b.1) ∧
    ∀ run, (g.report run window).records = sorted.map (·.2)
  /-- The report says that it was cancelled when a cancel came in, which was before the run found
  its end. -/
  marked : ∀ run, ((g.report run window).cancelled = true ↔ .cancel ∈ events) ∧
    ((g.report run window).cancelled = true → .ends ∉ events)
  /-- So it says when a cancel came in before all schools had landed, and a position is missing. -/
  cut : CutShort schools.length events →
    (∀ run, (g.report run window).cancelled = true) ∧ ∃ i < schools.length, i ∉ g.positions
  /-- It also says so when a cancel came in behind the last of them, and no position is missing. -/
  uncut : .cancel ∈ events → ¬ CutShort schools.length events →
    g.positions.Perm (List.range schools.length)
  /-- Where it does not say so, every position has an entry in the end. -/
  complete : g.stage ≠ .running → (∀ run, (g.report run window).cancelled = false) →
    g.positions.Perm (List.range schools.length)

theorem Traced.intact (h : Traced r window schools events g) :
    Intact r window schools events g where
  bounded := h.length_inFlight_le
  once := h.positions_perm.nodup_iff.mpr h.nodup
  landed := by
    intro i hi
    rw [h.landed] at hi
    exact h.positions_perm.mem_iff.mpr hi
  dropped := by
    intro i hi hmem
    exact h.not_landed hi (h.positions_perm.mem_iff.mp hmem)
  named := by
    refine ⟨?_, ?_⟩
    · intro i record hmem
      exact h.named_of_mem_records hmem
    · intro i id hmem
      exact h.named_of_mem_skipped hmem
  ascending := by
    have hperm := Fanout.perm_filter_range h.nodup fun i hi => h.lt_length hi
    refine ⟨Fanout.collect (r.recordAt? window schools)
      ((List.range schools.length).filter (· ∈ BatchEvent.landings events)), ?_, ?_, ?_⟩
    · rw [h.records]
      exact Fanout.collect_perm hperm.symm
    · exact Fanout.collect_ascending (List.pairwise_lt_range.filter _)
    · intro run
      rw [Fanout.map_snd_collect]
      exact h.inInputOrder_records
  marked := by
    intro run
    rw [Gathering.cancelled_report, h.cancelled]
    refine ⟨.rfl, ?_⟩
    intro hcancel hends
    cases (h.cancelled.mpr hcancel).symm.trans (h.done.mpr hends)
  cut := by
    intro cut
    obtain ⟨stage, short⟩ := h.cut.mp cut
    exact ⟨fun run => Gathering.cancelled_report.mpr stage, h.exists_missing short⟩
  uncut := by
    intro hcancel uncut
    have hle := h.length_landings_le
    have whole : ¬ (BatchEvent.landings events).length < schools.length := fun short =>
      uncut (h.cut.mpr ⟨h.cancelled.mpr hcancel, short⟩)
    exact h.positions_perm_range (by omega)
  complete := by
    intro ended uncancelled
    -- The flag is the same whatever number the run is given.
    have stage := Gathering.done_of_uncancelled ended (uncancelled ⟨""⟩)
    exact h.positions_perm_range (h.finished stage)

/-- A run in which all schools have landed has every entry that any other run has. -/
theorem Traced.subset_of_whole (h : Traced r window schools events g)
    (h' : Traced r window schools events' g')
    (whole : (BatchEvent.landings events').length = schools.length) :
    g.records ⊆ g'.records ∧ g.skipped ⊆ g'.skipped := by
  have hlanded : ∀ i ∈ BatchEvent.landings events, i ∈ BatchEvent.landings events' := by
    intro i hi
    exact (h'.perm_range whole).mem_iff.mpr (List.mem_range.mpr (h.lt_length hi))
  rw [h.records, h.skipped, h'.records, h'.skipped]
  refine ⟨?_, ?_⟩
  · intro entry hentry
    obtain ⟨hi, hrecord⟩ := Fanout.mem_collect.mp hentry
    exact Fanout.mem_collect.mpr ⟨hlanded _ hi, hrecord⟩
  · intro entry hentry
    obtain ⟨hi, hskip⟩ := Fanout.mem_collect.mp hentry
    exact Fanout.mem_collect.mpr ⟨hlanded _ hi, hskip⟩

/-- Cutting a run earlier leaves fewer records and fewer skips, and the same order of them. -/
theorem Traced.report_mono (h : Traced r window schools events g)
    (h' : Traced r window schools events' g')
    (earlier : BatchEvent.landings events <+: BatchEvent.landings events') :
    (g.report run window).records.Sublist (g'.report run window).records ∧
      (g.report run window).skipped <+: (g'.report run window).skipped := by
  show (Fanout.inInputOrder g.records).Sublist (Fanout.inInputOrder g'.records) ∧
    g.skipped.map (·.2) <+: g'.skipped.map (·.2)
  rw [h.inInputOrder_records, h'.inInputOrder_records, h.map_snd_skipped, h'.map_snd_skipped]
  refine ⟨?_, earlier.filterMap _⟩
  refine (List.monotone_filter_right _ fun i hi => ?_).filterMap _
  rw [decide_eq_true_eq] at hi ⊢
  exact earlier.subset hi

/--
**A cancel leaves what has been gathered as it is.**  However the schools of a batch
land and whenever a cancel comes in, what has been gathered is `Intact`: each position
that has landed has its entry and no other position has one, and the report says whether
a cancel came in before the run found its end.  The entries are those that the positions
get in any run without a cancel.  Of two cuts of one run the earlier one has a part of
the later one's records, in their order, and the first of its skips.  A reconciliation
reports what such a run has gathered, whichever order the schools land in and whenever
the clock brings the cancel; on no schools at all there is no report.
-/
theorem cancel_leaves_intact {config : Config} {localFeed remoteFeed : Feed}
    (created : create config localFeed remoteFeed = .ok r) (window : DateWindow)
    (schools : List School) :
    (∀ events g, Run r window schools events g → Intact r window schools events g) ∧
      (∃ events g, Run r window schools events g ∧ g.stage = .done) ∧
      (∀ events g events' g', Run r window schools events g → Run r window schools events' g' →
        g'.stage = .done → g.records ⊆ g'.records ∧ g.skipped ⊆ g'.skipped) ∧
      (∀ events g events' g', Run r window schools events g → Run r window schools events' g' →
        BatchEvent.landings events <+: BatchEvent.landings events' →
        ∀ run, (g.report run window).records.Sublist (g'.report run window).records ∧
          (g.report run window).skipped <+: (g'.report run window).skipped) ∧
      (schools ≠ [] → ∀ run,
        (∀ events g, Run r window schools events g →
          r.report run schools window g.progress.landed (g.stage = .cancelled) =
              .ok (g.report run window) ∧
            (g.stage = .done → r.Possible run schools window (g.report run window))) ∧
        ∀ cancelAt, ∃ events g, Run r window schools events g ∧ g.stage ≠ .running ∧
          r.reconcileUntil run schools window cancelAt = .ok (g.report run window)) ∧
      (schools = [] → ∀ run cancelAt,
        r.reconcileUntil run schools window cancelAt = .error (.validation .emptyBatch)) := by
  obtain ⟨valid, hr⟩ := create_eq_ok.mp created
  have width : r.config.maxConcurrency ≠ 0 := by
    rw [hr]
    exact (Config.check_eq_ok.mp valid).2.1
  refine ⟨?_, ?_, ?_, ?_, ?_, ?_⟩
  · intro events g h
    exact h.traced.intact
  · obtain ⟨events, g, h, ended, -, cut⟩ := exists_ended_run window
      (feasible_clockOrder width schools window none)
    refine ⟨events, g, h, ?_⟩
    rw [length_clockOrder] at cut
    cases stage : g.stage with
    | running => exact absurd stage ended
    | done => rfl
    | cancelled => exact absurd (cut.mp stage) (Nat.lt_irrefl _)
  · intro events g events' g' h h' finished
    exact h.traced.subset_of_whole h'.traced (h'.traced.finished finished)
  · intro events g events' g' h h' earlier run
    exact h.traced.report_mono h'.traced earlier
  · intro nonempty run
    refine ⟨?_, ?_⟩
    · intro events g h
      exact ⟨report_of_run h run nonempty, fun finished => possible_of_done h finished run nonempty⟩
    · intro cancelAt
      obtain ⟨events, g, h, ended, hlanded, cut⟩ :=
        exists_ended_run window (feasible_clockOrder width schools window cancelAt)
      refine ⟨events, g, h, ended, ?_⟩
      have reported := report_of_run h run nonempty
      rw [hlanded, decide_eq_decide.mpr cut] at reported
      exact reported
  · rintro rfl run cancelAt
    rfl

/-- The school in the middle lands and a cancel comes in; the other two are dropped. -/
theorem cancel_leaves_intact_after_one :
    ∃ r g, create ⟨"pg", 0, 2, ⟨999⟩, 0⟩ refusingFeed slowFeed = .ok r ∧
      Run r (.day ⟨2024, 1, 1, by decide⟩) [⟨"b", "t"⟩, ⟨"a", "t"⟩, ⟨"c", "t"⟩]
        [.lands 1, .cancel] g ∧
      (∀ run, (g.report run (.day ⟨2024, 1, 1, by decide⟩)).cancelled = true) ∧
      1 ∈ g.positions ∧ 0 ∉ g.positions ∧ 2 ∉ g.positions := by
  have created : create ⟨"pg", 0, 2, ⟨999⟩, 0⟩ refusingFeed slowFeed =
      .ok ⟨⟨"pg", 0, 2, ⟨999⟩, 0⟩, refusingFeed, slowFeed⟩ :=
    create_eq_ok.mpr ⟨Config.check_eq_ok.mpr (by decide), rfl⟩
  obtain ⟨intact, -⟩ := cancel_leaves_intact created (.day ⟨2024, 1, 1, by decide⟩)
    [⟨"b", "t"⟩, ⟨"a", "t"⟩, ⟨"c", "t"⟩]
  have landed : (Fanout.Progress.start 2 3).land? 3 1 = some ⟨3, [1]⟩ := by decide
  have begun := @Run.start ⟨⟨"pg", 0, 2, ⟨999⟩, 0⟩, refusingFeed, slowFeed⟩
    (.day ⟨2024, 1, 1, by decide⟩) [⟨"b", "t"⟩, ⟨"a", "t"⟩, ⟨"c", "t"⟩]
  have one := begun.step (.record rfl landed rfl (answer_eq_ok_iff.mpr ⟨by decide, rfl⟩))
  have both := one.step (.cancel rfl)
  have hintact := intact _ _ both
  refine ⟨_, _, created, both, (hintact.cut ⟨[.lands 1], [], rfl, by decide⟩).1, ?_, ?_, ?_⟩
  · exact hintact.landed 1 (by decide)
  · exact hintact.dropped 0 (Or.inl (by decide))
  · exact hintact.dropped 2 (Or.inl (by decide))

/-- The one school of a batch has landed when a cancel comes in, which was not before all schools
had landed; the report has the school's record and yet says that it was cancelled.  On no schools
there is no report that could say so or not. -/
theorem cancelled_without_loss :
    ∃ r g, create ⟨"pg", 0, 2, ⟨999⟩, 0⟩ refusingFeed slowFeed = .ok r ∧
      Run r (.day ⟨2024, 1, 1, by decide⟩) [⟨"a", "t"⟩] [.lands 0, .cancel] g ∧
      ¬ CutShort 1 [.lands 0, .cancel] ∧
      g.records.map (·.1) = [0] ∧
      (∀ run, (g.report run (.day ⟨2024, 1, 1, by decide⟩)).cancelled = true) ∧
      ∀ run cancelAt, r.reconcileUntil run [] (.day ⟨2024, 1, 1, by decide⟩) cancelAt =
        .error (.validation .emptyBatch) := by
  have created : create ⟨"pg", 0, 2, ⟨999⟩, 0⟩ refusingFeed slowFeed =
      .ok ⟨⟨"pg", 0, 2, ⟨999⟩, 0⟩, refusingFeed, slowFeed⟩ :=
    create_eq_ok.mpr ⟨Config.check_eq_ok.mpr (by decide), rfl⟩
  have landed : (Fanout.Progress.start 2 1).land? 1 0 = some ⟨1, [0]⟩ := by decide
  have begun := @Run.start ⟨⟨"pg", 0, 2, ⟨999⟩, 0⟩, refusingFeed, slowFeed⟩
    (.day ⟨2024, 1, 1, by decide⟩) [⟨"a", "t"⟩]
  have one := begun.step (.record rfl landed rfl (answer_eq_ok_iff.mpr ⟨by decide, rfl⟩))
  have both := one.step (.cancel rfl)
  refine ⟨_, _, created, both, ?_, rfl, fun _ => rfl, fun _ _ => rfl⟩
  intro cut
  exact absurd (both.traced.cut.mp cut).2 (by decide)

end Reconciler

end SchoolFees

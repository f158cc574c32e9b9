/-
The order that the clock brings about is a feasible one.

The clock keeps one number for each slot, the moment at which it becomes free, and gives
the next job the slot that is free first.  Endings of earlier jobs that lie behind that
moment are endings that some slot still waits for (`Backed`), and at most `width - 1`
slots can be waiting when a job starts.  So of the jobs before it all but `width - 1`
have ended when it starts, and all the more when it ends: sorted by their endings, a job
cannot come earlier than the window allows.

The induction is on the durations, with the endings of the jobs before them carried
along; `Backed` is the invariant.  A cancel only cuts the sorted list off, so it takes
nothing away from in front of a job that has still landed.
-/
import Mathlib.Data.List.Count
import SchoolFees.Proofs.Fanout.Landing

namespace SchoolFees

namespace Fanout

/-! ### Slots -/

/-- The moment at which the first slot becomes free. -/
def earliest (slots : List Nat) : Nat := slots.min?.getD 0

theorem endings_cons (slots durations : List Nat) (duration : Nat) :
    endings slots (duration :: durations) =
      (earliest slots + duration) ::
        endings ((earliest slots + duration) :: slots.erase (earliest slots)) durations := rfl

theorem min?_eq_earliest {slots : List Nat} (h : slots ≠ []) :
    slots.min? = some (earliest slots) := by
  unfold earliest
  cases hmin : slots.min? with
  | none => exact absurd (List.min?_eq_none_iff.mp hmin) h
  | some m => rfl

theorem earliest_mem {slots : List Nat} (h : slots ≠ []) : earliest slots ∈ slots :=
  (List.min?_eq_some_iff.mp (min?_eq_earliest h)).1

theorem earliest_le {slots : List Nat} {moment : Nat} (h : moment ∈ slots) :
    earliest slots ≤ moment :=
  (List.min?_eq_some_iff.mp (min?_eq_earliest (List.ne_nil_of_mem h))).2 moment h

/-- How many of these moments lie behind `moment`. -/
def countAfter (moment : Nat) (moments : List Nat) : Nat := moments.countP (moment < ·)

/-- Fewer slots become free behind a moment than there are, if one is free by then. -/
theorem countAfter_lt_length {slots : List Nat} (h : slots ≠ []) {moment : Nat}
    (hfree : earliest slots ≤ moment) : countAfter moment slots < slots.length := by
  unfold countAfter
  rw [List.countP_lt_length_iff]
  exact ⟨_, earliest_mem h, by simpa using hfree⟩

/-- Taking the slot that is free first changes no count of later ones. -/
theorem countAfter_erase {slots : List Nat} (h : slots ≠ []) {moment : Nat}
    (hfree : earliest slots ≤ moment) :
    countAfter moment (slots.erase (earliest slots)) = countAfter moment slots := by
  have hperm := List.perm_cons_erase (earliest_mem h)
  have hcount := hperm.countP_eq (fun x => decide (moment < x))
  have hnot : ¬ moment < earliest slots := Nat.not_lt.mpr hfree
  unfold countAfter
  rw [hcount, List.countP_cons_of_neg (by simpa using hnot)]

/-! ### Every late ending is one that a slot waits for -/

/-- From the moment a slot is free on, no more jobs end than slots become free. -/
def Backed (ended slots : List Nat) : Prop :=
  ∀ moment, earliest slots ≤ moment → countAfter moment ended ≤ countAfter moment slots

/-- Starting a job in the first slot keeps late endings backed. -/
theorem backed_start {ended slots : List Nat} (h : slots ≠ []) (hbacked : Backed ended slots)
    (duration : Nat) :
    Backed (ended ++ [earliest slots + duration])
      ((earliest slots + duration) :: slots.erase (earliest slots)) := by
  intro moment hmoment
  -- The first free slot is not freed earlier by taking it.
  have hfree : earliest slots ≤ moment := by
    refine Nat.le_trans ?_ hmoment
    have hnext := earliest_mem
      (List.cons_ne_nil (earliest slots + duration) (slots.erase (earliest slots)))
    rcases List.mem_cons.mp hnext with heq | hmem
    · omega
    · exact earliest_le (List.mem_of_mem_erase hmem)
  have hcount := hbacked moment hfree
  rw [← countAfter_erase h hfree] at hcount
  unfold countAfter at hcount ⊢
  rw [List.countP_append, List.countP_singleton, List.countP_cons]
  omega

/-- When a job ends, fewer than `width` of the jobs before it are still to end. -/
theorem countAfter_ending_lt (durations : List Nat) :
    ∀ (ended slots : List Nat), slots ≠ [] → Backed ended slots →
      ∀ (j : Nat) (hj : j < (endings slots durations).length),
        countAfter (endings slots durations)[j] (ended ++ (endings slots durations).take j)
          < slots.length := by
  induction durations with
  | nil => intro ended slots _ _ j hj; simp [endings] at hj
  | cons duration rest ih =>
    intro ended slots h hbacked j hj
    simp only [endings_cons] at hj ⊢
    cases j with
    | zero =>
      have hfree : earliest slots ≤ earliest slots + duration := Nat.le_add_right _ _
      rw [List.take_zero, List.append_nil, List.getElem_cons_zero]
      exact Nat.lt_of_le_of_lt (hbacked _ hfree) (countAfter_lt_length h hfree)
    | succ j =>
      have hlength : ((earliest slots + duration) :: slots.erase (earliest slots)).length =
          slots.length := by
        rw [List.length_cons, List.length_erase_of_mem (earliest_mem h)]
        have := List.length_pos_of_ne_nil h
        omega
      have hnext := ih (ended ++ [earliest slots + duration])
        ((earliest slots + duration) :: slots.erase (earliest slots)) (by simp)
        (backed_start h hbacked duration) j (by simpa using hj)
      rw [hlength, List.append_assoc] at hnext
      exact hnext

/-! ### The timetable -/

variable {width : Nat} {durations : List Nat} {cancelAt : Option Nat}

/-- The landing comes before the cancel, if there is one. -/
def landsInTime (cancelAt : Option Nat) (landing : Nat × Nat) : Bool :=
  match cancelAt with
  | none => true
  | some moment => landing.1 < moment

/-- The landings of a run by the clock, with their moments. -/
def landings (width : Nat) (durations : List Nat) (cancelAt : Option Nat) : List (Nat × Nat) :=
  ((timetable width durations).filter (landsInTime cancelAt)).mergeSort landsBefore

theorem clockOrder_eq : clockOrder width durations cancelAt =
    (landings width durations cancelAt).map (·.2) := rfl

theorem landings_perm : (landings width durations cancelAt).Perm
    ((timetable width durations).filter (landsInTime cancelAt)) := List.mergeSort_perm _ _

theorem landings_sorted : (landings width durations cancelAt).Pairwise
    fun a b => landsBefore a b = true := by
  refine List.pairwise_mergeSort ?_ ?_ _
  · intro a b c hab hbc
    simp only [landsBefore, Bool.or_eq_true, Bool.and_eq_true, decide_eq_true_eq,
      beq_iff_eq] at hab hbc ⊢
    omega
  · intro a b
    simp only [landsBefore, Bool.or_eq_true, Bool.and_eq_true, decide_eq_true_eq, beq_iff_eq]
    omega

theorem clockOrder_nodup : (clockOrder width durations cancelAt).Nodup := by
  have hall : ((timetable width durations).map (·.2)).Nodup := by
    rw [map_snd_timetable]
    exact List.nodup_range
  rw [clockOrder_eq]
  refine (landings_perm.map (·.2)).nodup_iff.mpr ?_
  exact hall.sublist (List.filter_sublist.map _)

/-- The entries before a position are the first ones of the list. -/
theorem countP_zipIdx (moments : List Nat) (ending : Nat) :
    ∀ first j : Nat, (moments.zipIdx first).countP
        (fun p => decide (p.2 < first + j ∧ p.1 ≤ ending)) =
      (moments.take j).countP (· ≤ ending) := by
  induction moments with
  | nil => intro first j; simp
  | cons moment rest ih =>
    intro first j
    cases j with
    | zero =>
      rw [List.take_zero, List.countP_nil, List.countP_eq_zero]
      intro p hp
      have := (List.mem_zipIdx hp).1
      simp only [decide_eq_true_eq]
      omega
    | succ j =>
      have hrest := ih (first + 1) j
      have hfirst : first < first + (j + 1) := by omega
      rw [show first + 1 + j = first + (j + 1) by omega] at hrest
      rw [List.zipIdx_cons, List.take_succ_cons, List.countP_cons, List.countP_cons, hrest]
      simp [hfirst]

/-- Of the jobs before one, all but `width - 1` end no later than it does. -/
theorem lt_add_countP_timetable (hwidth : 0 < width) {ending job : Nat}
    (h : (ending, job) ∈ timetable width durations) :
    job < width +
      (timetable width durations).countP fun p => decide (p.2 < job ∧ p.1 ≤ ending) := by
  unfold timetable at h ⊢
  generalize hslots : List.replicate (min width durations.length) 0 = slots at h ⊢
  obtain ⟨hjob, hending⟩ := List.mem_zipIdx' h
  have hsome : slots ≠ [] := by
    intro hnil
    have hlength := congrArg List.length hslots
    rw [hnil, List.length_replicate] at hlength
    rw [length_endings] at hjob
    rw [List.length_nil] at hlength
    omega
  have hslotsLength : slots.length ≤ width := by
    rw [← hslots, List.length_replicate]
    exact Nat.min_le_left _ _
  have hlate := countAfter_ending_lt durations [] slots hsome (fun _ _ => by simp [countAfter])
    job hjob
  rw [← hending, List.nil_append] at hlate
  have hearly := countP_zipIdx (endings slots durations) ending 0 job
  have hsum := List.length_eq_countP_add_countP (fun x => decide (x ≤ ending))
    (l := (endings slots durations).take job)
  have hrest : ((endings slots durations).take job).countP
      (fun x => decide (¬ decide (x ≤ ending) = true)) =
        countAfter ending ((endings slots durations).take job) := by
    unfold countAfter
    refine List.countP_congr fun x _ => ?_
    simp
  rw [hrest, List.length_take, Nat.min_eq_left (Nat.le_of_lt hjob)] at hsum
  rw [Nat.zero_add] at hearly
  rw [hearly]
  omega

/-- What lands at a place in a sorted list has at most that many landings before it. -/
theorem countP_sorted_le {sorted : List (Nat × Nat)}
    (hsorted : sorted.Pairwise fun a b => landsBefore a b = true) {k : Nat}
    (hk : k < sorted.length) :
    sorted.countP (fun p => decide (p.2 < sorted[k].2 ∧ p.1 ≤ sorted[k].1)) ≤ k := by
  have hdrop : sorted.drop k = sorted[k] :: sorted.drop (k + 1) := List.drop_eq_getElem_cons hk
  have htail : (sorted.drop k).countP
      (fun p => decide (p.2 < sorted[k].2 ∧ p.1 ≤ sorted[k].1)) = 0 := by
    rw [List.countP_eq_zero]
    intro p hp
    have hpairs := hsorted.drop (i := k)
    rw [hdrop] at hp hpairs
    rcases List.mem_cons.mp hp with heq | hlater
    · simp [heq]
    · have hbefore := (List.pairwise_cons.mp hpairs).1 p hlater
      simp only [landsBefore, Bool.or_eq_true, Bool.and_eq_true, decide_eq_true_eq,
        beq_iff_eq] at hbefore ⊢
      omega
  have hhead := List.countP_le_length (l := sorted.take k)
    (p := fun p => decide (p.2 < sorted[k].2 ∧ p.1 ≤ sorted[k].1))
  rw [List.length_take, Nat.min_eq_left (Nat.le_of_lt hk)] at hhead
  conv_lhs => arg 2; rw [← List.take_append_drop k sorted]
  rw [List.countP_append, htail]
  exact hhead

/-- **The clock picks a feasible order**, whatever the durations and whenever a cancel cuts the run
short. -/
theorem clockOrder_feasible (hwidth : 0 < width) :
    Feasible width durations.length (clockOrder width durations cancelAt) := by
  refine feasible_iff.mpr ⟨clockOrder_nodup, ?_⟩
  intro k hk
  have hk' : k < (landings width durations cancelAt).length := by
    rwa [clockOrder_eq, List.length_map] at hk
  have hget : (clockOrder width durations cancelAt)[k] =
      (landings width durations cancelAt)[k].2 := by simp [clockOrder_eq]
  rw [hget]
  have hcount := countP_sorted_le landings_sorted hk'
  have hmem : (landings width durations cancelAt)[k] ∈
      (timetable width durations).filter (landsInTime cancelAt) :=
    landings_perm.subset (List.getElem_mem hk')
  obtain ⟨htable, htime⟩ := List.mem_filter.mp hmem
  generalize (landings width durations cancelAt)[k] = landing at hcount htable htime ⊢
  have hjobs : landing.2 < durations.length := by
    have hposition := List.mem_map_of_mem (f := (·.2)) htable
    rwa [map_snd_timetable, List.mem_range] at hposition
  -- A landing that is no later than one in time is in time itself.
  have hkept : (landings width durations cancelAt).countP
        (fun p => decide (p.2 < landing.2 ∧ p.1 ≤ landing.1)) =
      (timetable width durations).countP
        (fun p => decide (p.2 < landing.2 ∧ p.1 ≤ landing.1)) := by
    rw [landings_perm.countP_eq, List.countP_filter]
    refine List.countP_congr fun p _ => ?_
    simp only [Bool.and_eq_true, decide_eq_true_eq, and_iff_left_iff_imp]
    intro h
    cases cancelAt with
    | none => rfl
    | some moment =>
      simp only [landsInTime, decide_eq_true_eq] at htime ⊢
      omega
  rw [hkept] at hcount
  have hwindow : landing.2 < width + (timetable width durations).countP
      (fun p => decide (p.2 < landing.2 ∧ p.1 ≤ landing.1)) :=
    lt_add_countP_timetable hwidth htable
  omega

theorem length_clockOrder_none :
    (clockOrder width durations none).length = durations.length := by
  rw [(clockOrder_perm width durations).length_eq, List.length_range]

end Fanout

end SchoolFees

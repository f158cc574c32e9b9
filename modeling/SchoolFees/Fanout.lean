/-
Many jobs at once, a bounded number of them under way.

Jobs are known by their position in the input.  They start in input order, as many as
the width allows; whenever one lands, the next one starts.  Any job under way may be the
next to land, so a run is described by its *landing order*: the positions of the jobs
that have landed so far.  `Progress.land?` is one step of such a run, and an order is
`Feasible` when every step of it is possible.  A run that is cut short is a landing
order that does not hold every position.

What a run gathers is a function of its landing order alone: `gather` lists the
outcomes as they came in, and `inInputOrder` puts them back into the order of the input.

A clock picks one of the feasible orders.  When the duration of every job is known, each
job starts as soon as one of the slots is free, and jobs land in the order of their
endings, of equal endings the one that started first.
-/

namespace SchoolFees

namespace Fanout

/-! ### Landing orders -/

/-- How far a run has come. -/
structure Progress where
  /-- How many jobs have started; they are the first ones of the input. -/
  started : Nat
  /-- The jobs that have landed, in the order in which they did. -/
  landed : List Nat
deriving DecidableEq

/-- The run before anything has landed. -/
def Progress.start (width jobs : Nat) : Progress := ⟨min width jobs, []⟩

/-- The job at this position is under way. -/
def Progress.InFlight (p : Progress) (job : Nat) : Prop := job < p.started ∧ job ∉ p.landed

instance (p : Progress) (job : Nat) : Decidable (p.InFlight job) :=
  inferInstanceAs (Decidable (_ ∧ _))

/-- A job under way lands, and the next one starts in its place. -/
def Progress.land? (jobs : Nat) (p : Progress) (job : Nat) : Option Progress :=
  if p.InFlight job then some ⟨min jobs (p.started + 1), p.landed ++ [job]⟩ else none

/-- Jobs land in this order. -/
def Progress.landAll? (jobs : Nat) (p : Progress) (order : List Nat) : Option Progress :=
  order.foldlM (fun p job => p.land? jobs job) p

/-- The order is one in which jobs can land. -/
def Feasible (width jobs : Nat) (order : List Nat) : Prop :=
  ((Progress.start width jobs).landAll? jobs order).isSome = true

instance (width jobs : Nat) (order : List Nat) : Decidable (Feasible width jobs order) :=
  inferInstanceAs (Decidable (_ = _))

/-- The jobs land as they started, which a width of one makes them do. -/
def inputOrder (jobs : Nat) : List Nat := List.range jobs

/-! ### What a run gathers -/

/-- The outcomes of the jobs that landed, in landing order, each with its position. -/
def gather {α : Type} (outcomes : List α) (order : List Nat) : List (Nat × α) :=
  order.filterMap fun job => (outcomes[job]?).map fun outcome => (job, outcome)

/-- What was gathered, in the order of the input. -/
def inInputOrder {α : Type} (gathered : List (Nat × α)) : List α :=
  (gathered.mergeSort fun a b => a.1 ≤ b.1).map (·.2)

/-! ### The clock -/

/-- When each job ends, in input order, if the slots are free at the given moments. -/
def endings : (slots durations : List Nat) → List Nat
  | _, [] => []
  | slots, duration :: durations =>
    let ending := slots.min?.getD 0 + duration
    ending :: endings (ending :: slots.erase (slots.min?.getD 0)) durations

theorem length_endings (slots durations : List Nat) :
    (endings slots durations).length = durations.length := by
  induction durations generalizing slots with
  | nil => rfl
  | cons d ds ih => simp [endings, ih]

/-- When each job ends, with its position. -/
def timetable (width : Nat) (durations : List Nat) : List (Nat × Nat) :=
  (endings (List.replicate (min width durations.length) 0) durations).zipIdx

/-- Every job has one line in it, in input order. -/
theorem map_snd_timetable {width : Nat} {durations : List Nat} :
    (timetable width durations).map (·.2) = List.range durations.length := by
  simp [timetable, List.zipIdx_map_snd, length_endings, List.range_eq_range']

/-- The earlier ending comes first, of equal endings the job that started first. -/
def landsBefore (a b : Nat × Nat) : Bool := a.1 < b.1 || (a.1 == b.1 && a.2 ≤ b.2)

/-- The landing order of a run that goes on until a moment, or until all jobs have landed. -/
def clockOrder (width : Nat) (durations : List Nat) (cancelAt : Option Nat) : List Nat :=
  let landings := (timetable width durations).filter fun landing =>
    match cancelAt with
    | none => true
    | some moment => landing.1 < moment
  (landings.mergeSort landsBefore).map (·.2)

/-- Without a cancel every job lands once. -/
theorem clockOrder_perm (width : Nat) (durations : List Nat) :
    (clockOrder width durations none).Perm (List.range durations.length) := by
  have kept : (timetable width durations).filter (fun _ => true) = timetable width durations :=
    List.filter_eq_self.2 fun _ _ => rfl
  rw [← @map_snd_timetable width]
  simpa only [clockOrder, kept] using
    (List.mergeSort_perm (timetable width durations) landsBefore).map (·.2)

end Fanout

end SchoolFees

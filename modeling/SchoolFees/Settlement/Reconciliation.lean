/-
Reconciliation of two feeds, school by school.

For every school of a batch both feeds are asked for its total, together and each with a
deadline, and the totals are compared.  Schools are worked on side by side and do not
disturb one another: one whose identifier is unusable, or for which a feed fails or is
late, is skipped and the others go on.

What the report says depends on the order in which schools end only in the order of the
skipped ones, and on a cancel only in who is left out and in a flag.  `report` therefore
takes that order and that flag as given; `clockOrder` is the order that the feeds' delays
bring about.
-/
import SchoolFees.Config.Basic
import SchoolFees.Fanout
import SchoolFees.Pricing.Validator
import SchoolFees.Settlement.Feed
import SchoolFees.Settlement.Report

namespace SchoolFees

/-- The failure of one school, for the reason that its error tells. -/
def FeeError.ofSchool (schoolId : String) (cause : FeeError) : FeeError :=
  .schoolFailed schoolId cause.message

/-- What a reconciliation works from. -/
structure Reconciler where
  config : Config
  /-- What was ordered, as the platform has it. -/
  localFeed : Feed
  /-- What was ordered, as the gateway has it. -/
  remoteFeed : Feed

namespace Reconciler

/-- Puts a configuration to use that passes its check. -/
def create (config : Config) (localFeed remoteFeed : Feed) : Except FeeError Reconciler := do
  config.check
  return ⟨config, localFeed, remoteFeed⟩

/-- Both totals of a school, asked for together. -/
def totals (r : Reconciler) (schoolId : String) : Call (Option Decimal × Option Decimal) :=
  ((r.localFeed.total schoolId).within r.config.callTimeout).both
    ((r.remoteFeed.total schoolId).within r.config.callTimeout)

/-- The comparison of one school's totals. -/
def reconcileSchool (r : Reconciler) (window : DateWindow) (school : School) :
    Call ReconciliationRecord :=
  match checkIdentifier school.id with
  | .error e => .refuse (e.ofSchool school.id)
  | .ok () => (r.totals school.id).andThen fun
    | .ok (localTotal, remoteTotal) =>
      .ok (.compare school window r.config.mismatchTolerance localTotal remoteTotal)
    | .error e => .error (e.ofSchool school.id)

/-- The outcome of every school, in input order. -/
def outcomes (r : Reconciler) (window : DateWindow) (schools : List School) :
    List (School × Except FeeError ReconciliationRecord) :=
  schools.map fun school => (school, (r.reconcileSchool window school).answer)

/-- The records among what was gathered, in input order. -/
def recordsOf (gathered : List (Nat × School × Except FeeError ReconciliationRecord)) :
    List ReconciliationRecord :=
  Fanout.inInputOrder <| gathered.filterMap fun
    | (job, _, .ok record) => some (job, record)
    | (_, _, .error _) => none

/-- The schools skipped among what was gathered, in the order in which they ended. -/
def skippedOf (gathered : List (Nat × School × Except FeeError ReconciliationRecord)) :
    List String :=
  gathered.filterMap fun
    | (_, _, .ok _) => none
    | (_, school, .error _) => some school.id

/-- The report on a batch whose schools ended in the given order.  Schools that are not in it were
cut off by a cancel; a cancel may also have come in when none was left to cut off. -/
def report (r : Reconciler) (run : RunId) (schools : List School) (window : DateWindow)
    (order : List Nat) (cancelled : Bool) : Except FeeError ReconciliationReport := do
  checkBatch schools
  let gathered := Fanout.gather (r.outcomes window schools) order
  return {
    run
    writtenAt := none
    window
    records := recordsOf gathered
    skipped := skippedOf gathered
    cancelled }

/-- The order in which the schools of a batch end by the clock, up to a cancel if there is one. -/
def clockOrder (r : Reconciler) (schools : List School) (window : DateWindow)
    (cancelAt : Option Nat) : List Nat :=
  Fanout.clockOrder r.config.maxConcurrency
    (schools.map fun school => (r.reconcileSchool window school).elapsed) cancelAt

/-- Reconciles a batch until it is done, or until a cancel that many milliseconds from now.  By the
clock a cancel comes before all that happens at its moment, so one that comes in while the batch
is worked off has a school left to cut off. -/
def reconcileUntil (r : Reconciler) (run : RunId) (schools : List School) (window : DateWindow)
    (cancelAt : Option Nat) : Except FeeError ReconciliationReport :=
  let order := r.clockOrder schools window cancelAt
  r.report run schools window order (order.length < schools.length)

/-- Reconciles a batch. -/
def reconcile (r : Reconciler) (run : RunId) (schools : List School) (window : DateWindow) :
    Except FeeError ReconciliationReport :=
  r.reconcileUntil run schools window none

end Reconciler

end SchoolFees

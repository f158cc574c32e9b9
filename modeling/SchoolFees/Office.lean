/-
The office: everything at work together.

An office has a configuration, the rate sheets with the validator that guards them, the
payments backend, a feed of totals from either side and a place where alerts go.  It
is a value, and a step turns one office into the next: a step that fails changes
nothing.  Steps that price or reconcile put the current configuration to use and fail
where it does not pass its check.

Reconciliation and gap reports are numbered by the office in the order in which they are
made, and the last report of each kind is kept, so that it can be sent as an alert.
-/
import SchoolFees.Commission.Batch
import SchoolFees.Settlement.Alerts
import SchoolFees.Settlement.Duplicates
import SchoolFees.Settlement.Gaps
import SchoolFees.Sheets.Change

namespace SchoolFees

/-- One of the two sides of a reconciliation. -/
inductive Side where
  | localSide
  | remoteSide
deriving DecidableEq

/-- The kinds of report that alerts are made of. -/
inductive AlertKind where
  | mismatches
  | settlementGaps
  | duplicates
deriving DecidableEq

/-- Everything at work together. -/
structure Office where
  config : Config
  /-- What charges are checked by before they go on a sheet. -/
  accepts : Validator
  sheets : SheetStore
  payments : Payments
  localFeed : Feed
  remoteFeed : Feed
  sink : AlertSink
  /-- How many runs have been numbered. -/
  runs : Nat
  lastReconciliation : Option ReconciliationReport
  lastGaps : Option GapReport
  lastDuplicates : Option DuplicateReport

namespace Office

/-- What can be done in an office. -/
inductive Step where
  | configure (config : Config)
  /-- Builds a catalog from the entries and puts it in the place of the owner's sheet. -/
  | putSheet (owner : Owner) (entries : List Entry) (accepts : Validator)
  | getSheet (owner : Owner)
  | clearSheets
  | refuseReads (owner : Owner)
  | refuseWrites (owner : Owner)
  | catalog (owner : Owner)
  | requiredCatalog (owner : Owner)
  | changeSheet (owner : Owner) (change : SheetChange)
  | setAmount (transaction : String) (amount : Decimal)
  | setApplied (schoolId : String) (key : ChargeKey) (tier : Tier)
  | setSettled (priceKey : String) (date : Date) (count : Nat)
  | backendFails (name : String)
  | backendDelays (name : String) (millis : Nat)
  | quote (chain : List Owner) (key : ChargeKey) (amount : Decimal)
  | compute (request : CommissionRequest)
  | computeBatch (requests : List CommissionRequest)
  | setTotal (side : Side) (schoolId : String) (total : Decimal)
  | feedFails (side : Side) (schoolId : String)
  | feedDelays (side : Side) (schoolId : String) (millis : Nat)
  | reconcile (schools : List School) (window : DateWindow) (cancelAt : Option Nat)
  /-- Reconciles for the records alone: nothing is numbered or kept. -/
  | reconcileWindow (schools : List School) (window : DateWindow)
  | findGaps (records : List SchoolRecord) (asOf : Date)
  | scanDuplicates (records : List SchoolRecord)
  | notify (kind : AlertKind)
  | sinkFails (failing : Bool)
  | alerts

/-- What a step answers. -/
inductive Answer where
  | done
  | sheet (sheet : Option Catalog)
  | entry (entry : Entry)
  | quote (quote : Quote)
  | commission (commission : Commission)
  | commissions (results : List (Except FeeError Commission))
  | reconciliation (report : ReconciliationReport)
  | records (records : List ReconciliationRecord)
  | gaps (report : GapReport)
  | duplicates (report : DuplicateReport)
  /-- Whether an alert was sent. -/
  | notified (sent : Bool)
  /-- There is no report yet that an alert could be made of. -/
  | noReport
  | alerts (received : List Alert)

/-- An office that nothing has happened in. -/
def new (config : Config) (accepts : Validator) : Office where
  config
  accepts
  sheets := .empty
  payments := .empty
  localFeed := .empty
  remoteFeed := .empty
  sink := .empty
  runs := 0
  lastReconciliation := none
  lastGaps := none
  lastDuplicates := none

/-- Computes commissions with the current configuration. -/
def cascade (o : Office) : Except FeeError Cascade := Cascade.create o.config o.sheets o.payments

/-- Reconciles with the current configuration. -/
def reconciler (o : Office) : Except FeeError Reconciler :=
  Reconciler.create o.config o.localFeed o.remoteFeed

/-- The name of the next run. -/
def nextRun (o : Office) : RunId := .numbered o.runs

/-- Changes the feed of one side. -/
def updateFeed (o : Office) (side : Side) (f : Feed → Feed) : Office :=
  match side with
  | .localSide => { o with localFeed := f o.localFeed }
  | .remoteSide => { o with remoteFeed := f o.remoteFeed }

/-- The alert made of the last report of a kind. -/
def lastAlert? (o : Office) : AlertKind → Option Alert
  | .mismatches => o.lastReconciliation.map .mismatches
  | .settlementGaps => o.lastGaps.map .settlementGaps
  | .duplicates => o.lastDuplicates.map .duplicates

/-- The answer to a change of a sheet. -/
def Answer.ofChange : ChangeAnswer → Answer
  | .sheet c => .sheet (some c)
  | .done => .done
  | .removed e => .entry e

/-- Does one step. -/
def step (o : Office) : Step → Except FeeError (Answer × Office)
  | .configure config => .ok (.done, { o with config })
  | .putSheet owner entries accepts => do
    let catalog ← Catalog.empty.addAll accepts entries
    let sheets ← o.sheets.write owner catalog
    return (.done, { o with sheets })
  | .getSheet owner => do
    let sheet ← o.sheets.read owner
    return (.sheet sheet, o)
  | .clearSheets => .ok (.done, { o with sheets := o.sheets.clear })
  | .refuseReads owner =>
    .ok (.done, { o with sheets.unreadable := owner :: o.sheets.unreadable })
  | .refuseWrites owner =>
    .ok (.done, { o with sheets.unwritable := owner :: o.sheets.unwritable })
  | .catalog owner => do
    let catalog ← o.sheets.catalog owner
    return (.sheet (some catalog), o)
  | .requiredCatalog owner => do
    let catalog ← o.sheets.requiredCatalog owner
    return (.sheet (some catalog), o)
  | .changeSheet owner change => do
    let (answer, sheets) ← o.sheets.change o.accepts owner change
    return (.ofChange answer, { o with sheets })
  | .setAmount transaction amount =>
    .ok (.done, { o with payments := o.payments.setAmount transaction amount })
  | .setApplied schoolId key tier =>
    .ok (.done, { o with payments := o.payments.setApplied schoolId key tier })
  | .setSettled priceKey date count =>
    .ok (.done, { o with payments := o.payments.setSettled priceKey date count })
  | .backendFails name => .ok (.done, { o with payments := o.payments.failFor name })
  | .backendDelays name millis =>
    .ok (.done, { o with payments := o.payments.delayFor name millis })
  | .quote chain key amount => do
    let cascade ← o.cascade
    let quote ← cascade.sheets.quote key amount chain
    return (.quote quote, o)
  | .compute request => do
    let cascade ← o.cascade
    let commission ← cascade.compute request
    return (.commission commission, o)
  | .computeBatch requests => do
    let cascade ← o.cascade
    return (.commissions (cascade.computeBatch requests (Fanout.inputOrder requests.length)), o)
  | .setTotal side schoolId total => .ok (.done, o.updateFeed side (·.setTotal schoolId total))
  | .feedFails side schoolId => .ok (.done, o.updateFeed side (·.failFor schoolId))
  | .feedDelays side schoolId millis => .ok (.done, o.updateFeed side (·.delayFor schoolId millis))
  | .reconcile schools window cancelAt => do
    let reconciler ← o.reconciler
    let report ← reconciler.reconcileUntil o.nextRun schools window cancelAt
    return (.reconciliation report,
      { o with runs := o.runs + 1, lastReconciliation := some report })
  | .reconcileWindow schools window => do
    let reconciler ← o.reconciler
    let report ← reconciler.reconcile o.nextRun schools window
    return (.records report.records, o)
  | .findGaps records asOf => do
    o.config.check
    let report ← GapReport.find o.payments.settledCount o.config.callTimeout o.nextRun records asOf
      Fanout.inputOrder
    return (.gaps report, { o with runs := o.runs + 1, lastGaps := some report })
  | .scanDuplicates records =>
    let report := DuplicateReport.scan records
    .ok (.duplicates report, { o with lastDuplicates := some report })
  | .notify kind => do
    o.config.check
    match o.lastAlert? kind with
    | none => return (.noReport, o)
    | some alert =>
      let (sent, sink) ← o.sink.notify alert
      return (.notified sent, { o with sink })
  | .sinkFails failing => .ok (.done, { o with sink.failing := failing })
  | .alerts => .ok (.alerts o.sink.received, o)

/-- Does one step and goes on with the office as it was if the step fails. -/
def tryStep (o : Office) (s : Step) : Except FeeError Answer × Office :=
  match o.step s with
  | .ok (answer, o') => (.ok answer, o')
  | .error e => (.error e, o)

end Office

end SchoolFees

/-
Reports and alerts as documents.
-/
import SchoolFees.Document.Rates
import SchoolFees.Settlement.Report

namespace SchoolFees

instance : Wire SchoolRecord where
  encode r := .record
    [("school", encode r.school), ("school_name", encode r.name), ("email", encode r.email),
      ("client_id", encode r.clientId), ("price_key", encode r.priceKey)]
  decode? d := do
    let f ← d.fields? ["school", "school_name", "email", "client_id", "price_key"]
    return {
      school := ← f.required "school"
      name := ← f.required "school_name"
      email := ← f.optional "email"
      clientId := ← f.optional "client_id"
      priceKey := ← f.optional "price_key" }

instance : Wire DateWindow where
  encode w := .record [("start", encode w.first), ("end", encode w.last)]
  decode? d := do
    let f ← d.fields? ["start", "end"]
    return { first := ← f.required "start", last := ← f.required "end" }

/-- The names that the missing sides travel under. -/
def MissingSide.names : List (String × MissingSide) :=
  [("local", .localSide), ("remote", .remoteSide), ("both", .bothSides)]

instance : Wire MissingSide where
  encode
    | .localSide => .text "local"
    | .remoteSide => .text "remote"
    | .bothSides => .text "both"
  decode? := Document.ofName? MissingSide.names

/-- Reads a record of a reconciliation, its missing side in a given way. -/
def ReconciliationRecord.ofDocument? (side? : Document → Option MissingSide) (d : Document) :
    Option ReconciliationRecord := do
  let f ← d.fields? ["school_id", "trustee_id", "window", "local_total_order_amount",
    "remote_total_order_amount", "mismatched", "diff", "missing"]
  return {
    school := ⟨← f.required "school_id", ← f.required "trustee_id"⟩
    window := ← f.required "window"
    localTotal := ← f.required "local_total_order_amount"
    remoteTotal := ← f.required "remote_total_order_amount"
    mismatched := ← f.required "mismatched"
    diff := ← f.required "diff"
    missing := ← f.optionalBy side? "missing" }

instance : Wire ReconciliationRecord where
  encode r := .record
    [("school_id", encode r.school.id), ("trustee_id", encode r.school.trusteeId),
      ("window", encode r.window), ("local_total_order_amount", encode r.localTotal),
      ("remote_total_order_amount", encode r.remoteTotal), ("mismatched", encode r.mismatched),
      ("diff", encode r.diff), ("missing", encode r.missing)]
  decode? := ReconciliationRecord.ofDocument? decode?

/-- Reads a report of a reconciliation, the missing sides in a given way. -/
def ReconciliationReport.ofDocument? (side? : Document → Option MissingSide) (d : Document) :
    Option ReconciliationReport := do
  let f ← d.fields? ["run_id", "generated_at", "window", "records", "skipped", "cancelled"]
  return {
    run := ← f.required "run_id"
    writtenAt := some (← f.required "generated_at")
    window := ← f.required "window"
    records := ← f.requiredBy (Document.listOf? (ReconciliationRecord.ofDocument? side?)) "records"
    skipped := ← f.required "skipped"
    cancelled := ← f.required "cancelled" }

/-- A report that was not dated is written without a date, and only dated ones are read. -/
instance : Wire ReconciliationReport where
  encode r := .record <|
    ("run_id", encode r.run) ::
      (r.writtenAt.toList.map fun moment => ("generated_at", encode moment)) ++
      [("window", encode r.window), ("records", encode r.records), ("skipped", encode r.skipped),
        ("cancelled", encode r.cancelled)]
  decode? := ReconciliationReport.ofDocument? decode?

instance : Wire SettlementGap where
  encode g := .record
    [("school", encode g.school), ("school_name", encode g.name), ("price_key", encode g.priceKey),
      ("date", encode g.date)]
  decode? d := do
    let f ← d.fields? ["school", "school_name", "price_key", "date"]
    return {
      school := ← f.required "school"
      name := ← f.required "school_name"
      priceKey := ← f.required "price_key"
      date := ← f.required "date" }

instance : Wire GapReport where
  encode r := .record
    [("run_id", encode r.run), ("date", encode r.date), ("gaps", encode r.gaps),
      ("skipped", encode r.skipped)]
  decode? d := do
    let f ← d.fields? ["run_id", "date", "gaps", "skipped"]
    return {
      run := ← f.required "run_id"
      date := ← f.required "date"
      gaps := ← f.required "gaps"
      skipped := ← f.required "skipped" }

instance {α : Type} [Wire α] : Wire (DuplicateGroup α) where
  encode g := .record
    [("key_value", encode g.key), ("count", encode g.count), ("members", encode g.members)]
  decode? d := do
    let f ← d.fields? ["key_value", "count", "members"]
    return {
      key := ← f.required "key_value"
      count := ← f.required "count"
      members := ← f.required "members" }

instance : Wire DuplicateReport where
  encode r := .record
    [("by_email", encode r.byEmail), ("by_client_id", encode r.byClientId),
      ("by_price_key", encode r.byPriceKey)]
  decode? d := do
    let f ← d.fields? ["by_email", "by_client_id", "by_price_key"]
    return {
      byEmail := ← f.required "by_email"
      byClientId := ← f.required "by_client_id"
      byPriceKey := ← f.required "by_price_key" }

/-! ### Alerts -/

/-- Reads the report of an alert of a kind, the missing sides in a given way. -/
def Alert.ofKind? (side? : Document → Option MissingSide) (kind : String) (report : Document) :
    Option Alert :=
  match kind with
  | "mismatches" => (ReconciliationReport.ofDocument? side? report).map .mismatches
  | "settlement_gaps" => (decode? report).map .settlementGaps
  | "duplicates" => (decode? report).map .duplicates
  | _ => none

/-- How a missing side is named in the report of an alert.  Where the parts of the alert are named,
the report is put aside until the kind is known, and names in it are read loosely. -/
def Alert.side? : Document → Document → Option MissingSide
  | .record _, side => side.looseName?.bind fun name => MissingSide.names.lookup name
  | _, side => decode? side

/-- An alert is its kind beside its report. -/
instance : Wire Alert where
  encode
    | .mismatches report => .record [("type", .text "mismatches"), ("report", encode report)]
    | .settlementGaps report =>
      .record [("type", .text "settlement_gaps"), ("report", encode report)]
    | .duplicates report => .record [("type", .text "duplicates"), ("report", encode report)]
  decode? d := do
    let (kind, report) ← d.kindAndContent? "type" "report"
    Alert.ofKind? (Alert.side? d) kind report

end SchoolFees

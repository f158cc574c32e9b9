/-
Rate sheets and commissions as documents.

A catalog travels as the list of its entries and is built anew when it is read, so one
that a catalog would not take in is refused with the catalog's own reason.
-/
import SchoolFees.Commission.Cascade
import SchoolFees.Document.Basic

namespace SchoolFees

/-! ### Charges -/

/-- The names that a choice among values travels under. -/
def Document.ofName? {α : Type} (names : List (String × α)) (d : Document) : Option α :=
  d.name?.bind fun name => names.lookup name

instance : Wire ChargeKind where
  encode
    | .flat => .text "FLAT"
    | .percent => .text "PERCENT"
  decode? := Document.ofName? [("FLAT", .flat), ("PERCENT", .percent)]

instance : Wire Tier where
  encode t := .record
    [("upto", encode t.bound), ("charge_type", encode t.kind), ("charge", encode t.charge)]
  decode? d := do
    let f ← d.fields? ["upto", "charge_type", "charge"]
    return {
      bound := ← f.optional "upto"
      kind := ← f.required "charge_type"
      charge := ← f.required "charge" }

instance : Wire Entry where
  encode e := .record
    [("platform_type", encode e.key.platform), ("payment_mode", encode e.key.mode),
      ("range_charge", encode (e.tiers : List Tier))]
  decode? d := do
    let f ← d.fields? ["platform_type", "payment_mode", "range_charge"]
    return {
      key := ⟨← f.required "platform_type", ← f.required "payment_mode"⟩
      tiers := ← f.required (α := List Tier) "range_charge" }

/-- Why a document is not a catalog. -/
inductive CatalogFault where
  /-- It is not a list of entries. -/
  | malformed
  /-- A catalog does not take these entries in. -/
  | refused (reason : FeeError)
deriving DecidableEq

namespace Catalog

/-- Writes a catalog. -/
def toDocument (c : Catalog) : Document := encode c.entries

/-- Reads a catalog. -/
def ofDocument (d : Document) : Except CatalogFault Catalog :=
  match decode? (α := List Entry) d with
  | none => .error .malformed
  | some entries => (ofEntries entries).mapError .refused

end Catalog

/-! ### Owners, schools and layers -/

/-- An owner of a kind, as the kind travels. -/
def Owner.ofKind? (kind id : String) : Option Owner :=
  match kind with
  | "gateway" => some (.gateway id)
  | "trustee_base" => some (.trusteeBase id)
  | "school_base" => some (.schoolBase id)
  | "school_final" => some (.schoolFinal id)
  | _ => none

/-- The kind of an owner, as it travels, and its identifier. -/
def Owner.kindAndId : Owner → String × String
  | .gateway id => ("gateway", id)
  | .trusteeBase id => ("trustee_base", id)
  | .schoolBase id => ("school_base", id)
  | .schoolFinal id => ("school_final", id)

instance : Wire Owner where
  encode o := .record [("kind", encode o.kindAndId.1), ("id", encode o.kindAndId.2)]
  decode? d := do
    let (kind, id) ← d.kindAndContent? "kind" "id"
    Owner.ofKind? kind (← decode? id)

instance : Wire School where
  encode s := .record [("school_id", encode s.id), ("trustee_id", encode s.trusteeId)]
  decode? d := do
    let f ← d.fields? ["school_id", "trustee_id"]
    return { id := ← f.required "school_id", trusteeId := ← f.required "trustee_id" }

instance : Wire Layer where
  encode
    | .gatewayBuying => .text "gateway_buying"
    | .schoolBase => .text "school_base"
    | .schoolFinal => .text "school_final"
    | .applied => .text "pg_final"
  decode? := Document.ofName? [("gateway_buying", .gatewayBuying), ("school_base", .schoolBase),
    ("school_final", .schoolFinal), ("pg_final", .applied)]

instance {α : Type} [Wire α] : Wire (Layers α) where
  encode l := .record
    [("gateway_buying", encode l.gatewayBuying), ("school_base", encode l.schoolBase),
      ("school_final", encode l.schoolFinal), ("pg_final", encode l.applied)]
  decode? d := do
    let f ← d.fields? ["gateway_buying", "school_base", "school_final", "pg_final"]
    return {
      gatewayBuying := ← f.required "gateway_buying"
      schoolBase := ← f.required "school_base"
      schoolFinal := ← f.required "school_final"
      applied := ← f.required "pg_final" }

/-! ### Commissions -/

instance : Wire RateSource where
  encode
    | .paymentsBackend => .text "payments_backend"
    | .sheet owner => .record [("sheet", encode owner)]
  decode? d :=
    match d.choice? with
    | some ("payments_backend", .null) => some .paymentsBackend
    | some ("sheet", owner) => (decode? owner).map .sheet
    | _ => none

instance : Wire Quote where
  encode q := .record
    [("source", encode q.source), ("tier", encode q.tier), ("fee", encode q.fee)]
  decode? d := do
    let f ← d.fields? ["source", "tier", "fee"]
    return {
      source := ← f.required "source"
      tier := ← f.required "tier"
      fee := ← f.required "fee" }

instance : Wire Figures where
  encode g := .record
    [("erp_commission", encode g.trustee), ("edviron_earning_base", encode g.platformBase),
      ("edviron_earning_school", encode g.platformFinal), ("edviron_earning", encode g.platform),
      ("total_commission", encode g.total)]
  decode? d := do
    let f ← d.fields? ["erp_commission", "edviron_earning_base", "edviron_earning_school",
      "edviron_earning", "total_commission"]
    return {
      trustee := ← f.required "erp_commission"
      platformBase := ← f.required "edviron_earning_base"
      platformFinal := ← f.required "edviron_earning_school"
      platform := ← f.required "edviron_earning"
      total := ← f.required "total_commission" }

instance : Wire TaxedAmount where
  encode a := .record
    [("base_amount", encode a.base), ("rate", encode a.rate), ("gst_amount", encode a.tax),
      ("total_amount", encode a.total)]
  decode? d := do
    let f ← d.fields? ["base_amount", "rate", "gst_amount", "total_amount"]
    return {
      base := ← f.required "base_amount"
      rate := ← f.required "rate"
      tax := ← f.required "gst_amount"
      total := ← f.required "total_amount" }

instance : Wire TaxedFigures where
  encode t := .record [("gst_amounts", encode t.tax), ("with_gst", encode t.withTax)]
  decode? d := do
    let f ← d.fields? ["gst_amounts", "with_gst"]
    return { tax := ← f.required "gst_amounts", withTax := ← f.required "with_gst" }

instance : Wire CommissionRequest where
  encode r := .record
    [("school", encode r.school), ("transaction_ref", encode r.transaction),
      ("payment_mode", encode r.key.mode), ("platform_type", encode r.key.platform)]
  decode? d := do
    let f ← d.fields? ["school", "transaction_ref", "payment_mode", "platform_type"]
    return {
      school := ← f.required "school"
      transaction := ← f.required "transaction_ref"
      key := ⟨← f.required "platform_type", ← f.required "payment_mode"⟩ }

/-- The quotes of all layers, put together from their parts. -/
def Layers.quotes (sources : Layers RateSource) (tiers : Layers Tier) (fees : Layers Decimal) :
    Layers Quote where
  gatewayBuying := ⟨sources.gatewayBuying, tiers.gatewayBuying, fees.gatewayBuying⟩
  schoolBase := ⟨sources.schoolBase, tiers.schoolBase, fees.schoolBase⟩
  schoolFinal := ⟨sources.schoolFinal, tiers.schoolFinal, fees.schoolFinal⟩
  applied := ⟨sources.applied, tiers.applied, fees.applied⟩

instance : Wire Commission where
  encode c := .record
    [("transaction_ref", encode c.transaction), ("order_amount", encode c.orderAmount),
      ("mdr", encode (c.quotes.map (·.tier))), ("mdr_amount", encode c.fees),
      ("sources", encode (c.quotes.map (·.source))), ("commission_without_gst", encode c.figures),
      ("commission_with_gst", encode c.taxed.withTax),
      ("commission_gst_amount", encode c.taxed.tax)]
  decode? d := do
    let f ← d.fields? ["transaction_ref", "order_amount", "mdr", "mdr_amount", "sources",
      "commission_without_gst", "commission_with_gst", "commission_gst_amount"]
    return {
      transaction := ← f.required "transaction_ref"
      orderAmount := ← f.required "order_amount"
      quotes := Layers.quotes (← f.required "sources") (← f.required "mdr")
        (← f.required "mdr_amount")
      figures := ← f.required "commission_without_gst"
      taxed := ⟨← f.required "commission_gst_amount", ← f.required "commission_with_gst"⟩ }

end SchoolFees

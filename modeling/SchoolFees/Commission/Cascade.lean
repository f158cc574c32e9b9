/-
Commissions of single payments.

A payment is priced at four layers.  A layer looks for its price along a chain of
owners: the first owner whose sheet prices the key decides, whether or not its table
has a tier for the amount, and owners without a sheet or without a charge for the key
are passed over.  The rate that was in fact applied comes from the payments backend,
and from the school's final sheet where the backend has none or does not answer.

The order amount is fetched first and everything is priced on it.  Of several layers
that have no price, the first in the order of `Layers` is reported.
-/
import SchoolFees.Commission.Payments
import SchoolFees.Config.Basic
import SchoolFees.Settlement.School
import SchoolFees.Sheets.Store

namespace SchoolFees

/-- Where a rate comes from. -/
inductive RateSource where
  | sheet (owner : Owner)
  | paymentsBackend
deriving DecidableEq

/-- A tier picked for an amount, with the fee it makes. -/
structure Quote where
  source : RateSource
  tier : Tier
  fee : Decimal
deriving DecidableEq

/-- The quote of a tier for an amount. -/
def Quote.ofTier (source : RateSource) (tier : Tier) (amount : Decimal) : Quote :=
  ⟨source, tier, tier.fee amount⟩

/-- A payment to compute the commission of. -/
structure CommissionRequest where
  school : School
  transaction : String
  /-- The platform and mode that the payment was made with. -/
  key : ChargeKey
deriving DecidableEq

/-- What every party earns on a payment. -/
structure Commission where
  transaction : String
  orderAmount : Decimal
  quotes : Layers Quote
  figures : Figures
  taxed : TaxedFigures
deriving DecidableEq

/-- The fee of each layer. -/
def Commission.fees (c : Commission) : Layers Decimal := c.quotes.map (·.fee)

namespace SheetStore

/-- The entry of one owner's sheet that prices a key, if the owner has one. -/
def entryOf (s : SheetStore) (owner : Owner) (key : ChargeKey) :
    Except FeeError (Option Entry) := do
  match ← s.read owner with
  | none => return none
  | some sheet => return (sheet.lookup key).toOption

/-- The quote of the first owner of a chain that prices the key. -/
def quote (s : SheetStore) (key : ChargeKey) (amount : Decimal) :
    (chain : List Owner) → Except FeeError Quote
  | [] => .error (.noChargeConfigured key)
  | owner :: chain => do
    match ← s.entryOf owner key with
    | none => quote s key amount chain
    | some entry =>
      let tier ← entry.tiers.select amount
      return Quote.ofTier (.sheet owner) tier amount

end SheetStore

/-- What commissions are computed from. -/
structure Cascade where
  config : Config
  sheets : SheetStore
  payments : Payments

namespace Cascade

/-- Puts a configuration to use that passes its check and whose tax rate can be applied. -/
def create (config : Config) (sheets : SheetStore) (payments : Payments) :
    Except FeeError Cascade := do
  config.check
  (Gst.checkRate config.gstRate).mapError FeeError.gst
  return ⟨config, sheets, payments⟩

/-- Whose sheet has the buying rate. -/
def gatewayChain (c : Cascade) : List Owner := [.gateway c.config.gatewayId]

/-- A school's own base rate comes before its trustee's. -/
def baseChain (school : School) : List Owner :=
  [.schoolBase school.id, .trusteeBase school.trusteeId]

/-- Whose sheet has the rate that customers see. -/
def finalChain (school : School) : List Owner := [.schoolFinal school.id]

/-- The amount ordered in a transaction. -/
def orderAmount (c : Cascade) (transaction : String) : Except FeeError Decimal := do
  match ← ((c.payments.orderAmount transaction).within c.config.callTimeout).answer with
  | some amount => .ok amount
  | none => .error (.amountUnavailable transaction)

/-- The rate that the payments backend applied, or that of the school's final sheet. -/
def appliedQuote (c : Cascade) (school : School) (key : ChargeKey) (amount : Decimal) :
    Except FeeError Quote :=
  match ((c.payments.appliedTier school.id key).within c.config.callTimeout).answer with
  | .ok (some tier) => .ok (Quote.ofTier .paymentsBackend tier amount)
  | _ => c.sheets.quote key amount (finalChain school)

/-- The quote of every layer. -/
def quotes (c : Cascade) (school : School) (key : ChargeKey) (amount : Decimal) :
    Except FeeError (Layers Quote) := do
  let gatewayBuying ←
    (c.sheets.quote key amount c.gatewayChain).mapError (FeeError.inLayer .gatewayBuying)
  let schoolBase ←
    (c.sheets.quote key amount (baseChain school)).mapError (FeeError.inLayer .schoolBase)
  let schoolFinal ←
    (c.sheets.quote key amount (finalChain school)).mapError (FeeError.inLayer .schoolFinal)
  let applied ← (c.appliedQuote school key amount).mapError (FeeError.inLayer .applied)
  return ⟨gatewayBuying, schoolBase, schoolFinal, applied⟩

/-- The commission of one payment. -/
def compute (c : Cascade) (request : CommissionRequest) : Except FeeError Commission := do
  let orderAmount ← c.orderAmount request.transaction
  let quotes ← c.quotes request.school request.key orderAmount
  let figures := Figures.ofFees (quotes.map (·.fee))
  return ⟨request.transaction, orderAmount, quotes, figures, figures.taxed c.config.gstRate⟩

end Cascade

end SchoolFees

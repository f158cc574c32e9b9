/-
What can go wrong, and how it is told.

Errors are causes: each kind of failure has its constructor and carries what the
failure was about, and the wording is in one function for each type.  Collaborators
that a caller supplies (validators, stores, feeds) may have reasons of their own;
those are the `other` constructors, which carry their text.
-/
import SchoolFees.Calendar.Date
import SchoolFees.Commission.Layer
import SchoolFees.Config.Setting
import SchoolFees.Decimal.Text
import SchoolFees.Duration
import SchoolFees.Pricing.Key
import SchoolFees.Sheets.Owner

namespace SchoolFees

/-- Why an input was not accepted. -/
inductive Violation where
  | blankPlatform
  | blankMode
  | emptyTable
  /-- The number of tiers without a bound is not one. -/
  | catchAllCount (found : Nat)
  | negativeCharge (charge : Decimal)
  | percentAboveHundred (charge : Decimal)
  | boundNotPositive (bound : Decimal)
  | boundsNotAscending (key : ChargeKey)
  | blankIdentifier
  | longIdentifier
  | emptyBatch
  | reversedWindow (first last : Date)
  | noDayBefore (date : Date)
  | other (reason : String)
deriving DecidableEq

/-- The longest identifier, in bytes. -/
def identifierLimit : Nat := 64

def Violation.message : Violation → String
  | .blankPlatform => "Platform type cannot be empty"
  | .blankMode => "Payment mode cannot be empty"
  | .emptyTable => "Range table must have at least one tier"
  | .catchAllCount found => s!"Range table must have exactly one unbounded tier, found {found}"
  | .negativeCharge charge => s!"Charge cannot be negative: {charge}"
  | .percentAboveHundred charge => s!"Percent charge cannot exceed 100: {charge}"
  | .boundNotPositive bound => s!"Tier bound must be positive: {bound}"
  | .boundsNotAscending key => s!"Tier bounds for {key} must be strictly ascending"
  | .blankIdentifier => "Identifier cannot be empty"
  | .longIdentifier => s!"Identifier cannot exceed {identifierLimit} characters"
  | .emptyBatch => "School list cannot be empty"
  | .reversedWindow first last => s!"window start {first} is after end {last}"
  | .noDayBefore date => s!"No day before {date}"
  | .other reason => reason

/-- Why a configuration cannot be used. -/
inductive Misconfiguration where
  | blankGateway
  | noConcurrency
  | noTimeout
  | negativeRate
  | negativeTolerance
  /-- The variable of this setting does not hold a value of its kind. -/
  | unreadable (setting : Setting)
  | other (reason : String)
deriving DecidableEq

def Misconfiguration.message : Misconfiguration → String
  | .blankGateway => "Gateway owner id cannot be empty"
  | .noConcurrency => "Max concurrency must be greater than 0"
  | .noTimeout => "Call timeout must be greater than 0"
  | .negativeRate => "GST rate cannot be negative"
  | .negativeTolerance => "Mismatch tolerance cannot be negative"
  | .unreadable setting => s!"Invalid {setting.variableName}"
  | .other reason => reason

/-- Why the store of rate sheets failed. -/
inductive StoreFault where
  | noSheet (owner : Owner)
  | readRefused (owner : Owner)
  | writeRefused (owner : Owner)
  | other (reason : String)
deriving DecidableEq

def StoreFault.message : StoreFault → String
  | .noSheet owner => s!"No rate sheet stored for {owner}"
  | .readRefused owner => s!"get refused {owner}"
  | .writeRefused owner => s!"put refused {owner}"
  | .other reason => reason

/-- Which source gave no answer. -/
inductive Outage where
  /-- The payments backend, asked about this key. -/
  | backend (key : String)
  /-- A feed of totals, asked about this school. -/
  | feed (schoolId : String)
  /-- The place that alerts are sent to. -/
  | sink
  | other (reason : String)
deriving DecidableEq

def Outage.message : Outage → String
  | .backend key => s!"backend refused {key}"
  | .feed schoolId => s!"feed refused school {schoolId}"
  | .sink => "sink refused"
  | .other reason => reason

/-- A tax rate that cannot be applied, since it is below zero. -/
structure NegativeRate where
  rate : Decimal
deriving DecidableEq

def NegativeRate.message (e : NegativeRate) : String :=
  s!"Invalid GST rate: GST rate cannot be negative: {e.rate}"

/-- Why a price, a catalog or a reconciliation could not be had. -/
inductive FeeError where
  | noMatchingTier (amount : Decimal)
  | noChargeConfigured (key : ChargeKey)
  | duplicateCharge (key : ChargeKey)
  | chargeNotFound (key : ChargeKey)
  | amountUnavailable (transaction : String)
  | unavailable (source : Outage)
  /-- A layer has no price, for the reason inside. -/
  | layerFailed (layer : Layer) (cause : FeeError)
  | schoolFailed (schoolId : String) (reason : String)
  | timeout (limit : Duration)
  | storage (fault : StoreFault)
  | validation (violation : Violation)
  | configuration (fault : Misconfiguration)
  | gst (fault : NegativeRate)
deriving DecidableEq

namespace FeeError

/-- The error as it is told. -/
def message : FeeError → String
  | .noMatchingTier amount => s!"No tier matches amount {amount}"
  | .noChargeConfigured key => s!"No charge configured for {key}"
  | .duplicateCharge key => s!"Charge already exists for {key}"
  | .chargeNotFound key => s!"Charge not found for {key}"
  | .amountUnavailable transaction => s!"Order amount unavailable for transaction {transaction}"
  | .unavailable source => s!"Upstream source unavailable: {source.message}"
  | .layerFailed layer cause => s!"{layer} not found: {cause.message}"
  | .schoolFailed schoolId reason => s!"School {schoolId} failed: {reason}"
  | .timeout limit => s!"Call timed out after {limit}"
  | .storage fault => s!"Storage error: {fault.message}"
  | .validation violation => s!"Validation error: {violation.message}"
  | .configuration fault => s!"Configuration error: {fault.message}"
  | .gst fault => fault.message

/-- Says which layer an error belongs to. -/
def inLayer (layer : Layer) (e : FeeError) : FeeError := .layerFailed layer e

end FeeError

/-- Accepts when `p` holds and fails with the given error when it does not. -/
def require (p : Prop) [Decidable p] (e : FeeError) : Except FeeError Unit :=
  if p then .ok () else .error e

end SchoolFees

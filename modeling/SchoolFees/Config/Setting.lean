/-
The five settings that an environment can give, and the names it gives them under.
-/

namespace SchoolFees

/-- A setting of the environment. -/
inductive Setting where
  | gatewayId
  | gstRate
  | maxConcurrency
  | callTimeout
  | mismatchTolerance
deriving DecidableEq

namespace Setting

/-- The name of the variable that holds a setting. -/
def variableName : Setting → String
  | .gatewayId => "COMMISSION_GATEWAY_ID"
  | .gstRate => "COMMISSION_GST_RATE"
  | .maxConcurrency => "COMMISSION_MAX_CONCURRENCY"
  | .callTimeout => "COMMISSION_CALL_TIMEOUT_MS"
  | .mismatchTolerance => "COMMISSION_MISMATCH_TOLERANCE"

/-- Every setting. -/
def all : List Setting := [.gatewayId, .gstRate, .maxConcurrency, .callTimeout, .mismatchTolerance]

/-- The setting whose variable has this name. -/
def ofVariableName? (name : String) : Option Setting := all.find? (·.variableName == name)

end Setting

end SchoolFees

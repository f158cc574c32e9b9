/-
The configuration of the engine, and the environment that it is read from.

A configuration is checked as a whole, in the order of `check`, wherever one is put to
use.  Reading one from an environment first reads every setting that is there, and
complains of the first that does not hold a value of its kind; settings that are not
there keep their standard value.  Blanks around a number do not matter.  The gateway's
identifier is taken as it stands.
-/
import SchoolFees.Commission.Gst

namespace SchoolFees

/-- How commissions are computed and totals reconciled. -/
structure Config where
  /-- Whose sheet holds the buying rates. -/
  gatewayId : String
  gstRate : Decimal
  /-- How many schools may be worked on at once. -/
  maxConcurrency : Nat
  /-- The deadline of every call. -/
  callTimeout : Duration
  /-- Totals that differ by no more than this agree. -/
  mismatchTolerance : Decimal
deriving DecidableEq

/-- What an environment says of each setting. -/
abbrev Environment := Setting → Option String

namespace Config

/-- The configuration where nothing else is said. -/
def standard : Config where
  gatewayId := "edviron-pg"
  gstRate := Gst.standardRate
  maxConcurrency := 8
  callTimeout := ⟨10000⟩
  mismatchTolerance := 0

/-- Accepts a configuration that can be put to use. -/
def check (c : Config) : Except FeeError Unit := do
  require (¬ Text.isAllBlank c.gatewayId) (.configuration .blankGateway)
  require (c.maxConcurrency ≠ 0) (.configuration .noConcurrency)
  require (c.callTimeout.millis ≠ 0) (.configuration .noTimeout)
  require (¬ c.gstRate < 0) (.configuration .negativeRate)
  require (¬ c.mismatchTolerance < 0) (.configuration .negativeTolerance)

/-- The value of a setting that is read with `read?`, or its standard value. -/
def setting {α : Type} (env : Environment) (s : Setting) (standard : α)
    (read? : String → Option α) : Except FeeError α :=
  match env s with
  | none => .ok standard
  | some raw =>
    match read? (Text.trim raw) with
    | some value => .ok value
    | none => .error (.configuration (.unreadable s))

/-- The configuration that an environment describes. -/
def ofEnvironment (env : Environment) : Except FeeError Config := do
  let gstRate ← setting env .gstRate standard.gstRate Decimal.ofText?
  let maxConcurrency ← setting env .maxConcurrency standard.maxConcurrency Text.word?
  let callTimeout ←
    setting env .callTimeout standard.callTimeout fun raw => (Text.word? raw).map Duration.mk
  let mismatchTolerance ←
    setting env .mismatchTolerance standard.mismatchTolerance Decimal.ofText?
  let config : Config :=
    { gatewayId := (env .gatewayId).getD standard.gatewayId
      gstRate, maxConcurrency, callTimeout, mismatchTolerance }
  config.check
  return config

end Config

end SchoolFees

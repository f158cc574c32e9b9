/-
Alerts: sending a report to whoever has to know.

A report that has nothing to tell is not sent.  The sink keeps what it receives, in the
order in which it was sent, unless it refuses.
-/
import SchoolFees.Error
import SchoolFees.Settlement.Report

namespace SchoolFees

/-- Where alerts go. -/
structure AlertSink where
  received : List Alert
  /-- Sending fails at present. -/
  failing : Bool
deriving DecidableEq

namespace Alert

/-- Something in the report needs attention. -/
def isCalledFor : Alert → Bool
  | .mismatches report => report.hasMismatches
  | .settlementGaps report => !report.gaps.isEmpty
  | .duplicates report => !report.isEmpty

end Alert

namespace AlertSink

/-- A sink that has received nothing. -/
def empty : AlertSink := ⟨[], false⟩

instance : Inhabited AlertSink := ⟨empty⟩

/-- Receives an alert. -/
def send (sink : AlertSink) (alert : Alert) : Except FeeError AlertSink :=
  if sink.failing then .error (.unavailable .sink)
  else .ok { sink with received := sink.received ++ [alert] }

/-- Sends an alert that is called for, and says whether it was. -/
def notify (sink : AlertSink) (alert : Alert) : Except FeeError (Bool × AlertSink) :=
  if alert.isCalledFor then (sink.send alert).map ((true, ·)) else .ok (false, sink)

end AlertSink

end SchoolFees

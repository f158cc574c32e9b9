/-
Commissions of many payments.

The payments of a batch are computed side by side and land in some order; what is
gathered is put back into the order of the requests.  So a batch answers each request
as it would have been answered alone, whatever the others do.
-/
import SchoolFees.Commission.Cascade
import SchoolFees.Fanout

namespace SchoolFees

namespace Cascade

/-- The commissions of a batch whose computations land in the given order. -/
def computeBatch (c : Cascade) (requests : List CommissionRequest) (order : List Nat) :
    List (Except FeeError Commission) :=
  Fanout.inInputOrder (Fanout.gather (requests.map c.compute) order)

end Cascade

end SchoolFees

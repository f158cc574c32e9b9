/-
Schools, and the records they are signed up with.
-/
import SchoolFees.Text

namespace SchoolFees

/-- A school and the trustee it belongs to. -/
structure School where
  id : String
  trusteeId : String
deriving DecidableEq

/-- What is on record about a school. -/
structure SchoolRecord where
  school : School
  name : String
  email : Option String
  clientId : Option String
  /-- The key under which its payments are settled; a school without one is not live yet. -/
  priceKey : Option String
deriving DecidableEq

/-- The key under which a live school's payments are settled. -/
def SchoolRecord.liveKey? (r : SchoolRecord) : Option String := Text.keyed r.priceKey

end SchoolFees

/-
Powers of numbers.

In this library `a ^ n` is core's power of a natural number, an integer or a rational, also where
the powers of a monoid are in scope as well, so that a definition means the same whatever else is
imported.
-/

namespace SchoolFees

attribute [scoped instance (high)] instPowNat

end SchoolFees

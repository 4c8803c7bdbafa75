/-!
# Instants

A point in time on the universal clock: whole seconds since the start of 1970, and nanoseconds
within the second. A leap second has no number of its own. It is kept as the second before it with
a thousand million nanoseconds more.
-/

namespace RecordRelay

/-- A **point in time**. -/
structure Instant where
  /-- Whole seconds since the start of 1970. -/
  seconds : Int
  /-- Nanoseconds within the second, from a thousand million on in a leap second. -/
  nanos : Nat
  deriving DecidableEq, Repr

namespace Instant

/-- Whether an instant is not after another. -/
def notAfter (a b : Instant) : Bool :=
  a.seconds < b.seconds || a.seconds = b.seconds && a.nanos ≤ b.nanos

/-- The start of 1970. -/
def epoch : Instant := ⟨0, 0⟩

end Instant

end RecordRelay

import Failsafe.Timestamp
/-
  Readings of the clocks.

  Elapsed time is counted in nanoseconds from a fixed start and never runs backwards; the
  distance from a later reading back to an earlier one is zero (natural subtraction).
-/

namespace Failsafe

/-- A length of time, or a reading of the steady clock, in nanoseconds. -/
abbrev Nanos := Nat

namespace Nanos

/-- A number of seconds. -/
def ofSeconds (n : Nat) : Nanos := n * 1000000000

/-- The whole seconds of a length of time. -/
def seconds (n : Nanos) : Nat := n / 1000000000

/-- The whole milliseconds of a length of time. -/
def millis (n : Nanos) : Nat := n / 1000000

/-- The nanoseconds beyond the whole seconds. -/
def fraction (n : Nanos) : Nat := n % 1000000000

end Nanos

/-- A reading of both clocks: the steady one, which orders events, and the wall clock, which
only labels them. -/
structure Moment where
  steady : Nanos
  wall : Timestamp
deriving DecidableEq, Repr, Inhabited

end Failsafe

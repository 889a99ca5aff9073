/-!
The time to wait before a retry, in milliseconds.
-/
namespace QueryCatalog

inductive Backoff where
  | fixed (interval : Nat)
  /-- Doubles with each attempt up to the maximum. -/
  | exponential (base maximum : Nat)
  deriving DecidableEq, Repr

namespace Backoff

/-- Doubling ends after this many times. -/
def maxDoublings : Nat := 16

/-- The delay before an attempt, counted from one. -/
def delay : Backoff → Nat → Nat
  | .fixed interval, _ => interval
  | .exponential base maximum, attempt => min (base * Nat.pow 2 (min (attempt - 1) maxDoublings)) maximum

end Backoff

end QueryCatalog

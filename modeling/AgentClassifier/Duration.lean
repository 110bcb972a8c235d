/-!
Lengths of time, counted in nanoseconds.

* `Duration` : a length of time; `Duration.ofParts`, `Duration.secs` and `Duration.subsecNanos`
  are its whole seconds and the rest.
-/

namespace AgentClassifier

/-- A length of time. -/
structure Duration where
  nanos : Nat
deriving DecidableEq, Repr, Inhabited

namespace Duration

def nanosPerSec : Nat := 1000000000

/-- Whole seconds and further nanoseconds. -/
def ofParts (secs nanos : Nat) : Duration := ⟨secs * nanosPerSec + nanos⟩

def ofSecs (secs : Nat) : Duration := ofParts secs 0

/-- The whole seconds. -/
def secs (duration : Duration) : Nat := duration.nanos / nanosPerSec

/-- The nanoseconds after the whole seconds. -/
def subsecNanos (duration : Duration) : Nat := duration.nanos % nanosPerSec

end Duration

end AgentClassifier

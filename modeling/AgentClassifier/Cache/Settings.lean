import AgentClassifier.Duration
import AgentClassifier.Error

/-!
The settings of caches.

* `Settings` : how many entries a cache keeps, and how long an entry stays unused.
* `Settings.capacity`, `Settings.validate` : the checks. The number of entries is checked first.
-/

namespace AgentClassifier

/-- The settings of a cache. -/
structure Settings where
  maxEntries : Nat
  /-- How long an entry may stay unused. -/
  idleTime : Duration
deriving DecidableEq, Repr, Inhabited

namespace Settings

/-- A thousand entries, and a day. -/
def default : Settings := ⟨1000, Duration.ofSecs 86400⟩

/-- One more than the largest number of entries that a memory can count. -/
def countLimit : Nat := Nat.pow 2 64

/-- The number of entries, which has to be positive and countable. -/
def capacity (settings : Settings) : Except BuildError Nat :=
  if settings.maxEntries = 0 ∨ countLimit ≤ settings.maxEntries then
    .error (.invalidSettings .capacity)
  else .ok settings.maxEntries

/-- Checks the number of entries, then the idle time, which has to be positive. -/
def validate (settings : Settings) : Except BuildError Unit :=
  match settings.capacity with
  | .error error => .error error
  | .ok _ =>
      if settings.idleTime.nanos = 0 then .error (.invalidSettings .idleTime) else .ok ()

end Settings

end AgentClassifier

import AgentClassifier.Cache.Recent
import AgentClassifier.Cache.Settings

/-!
The stores that layers are made of.

* `Store` : what can be done with a store. When an entry is dropped, the store decides.
* `Recent` is a store; `Recent.maxCapacity` is what its table has room for, and `Recent.lasting` is
  what is left of it where entries also expire.
-/

namespace AgentClassifier

/-- One more than the most bytes that one block of memory can have. -/
def blockLimit : Nat := Nat.pow 2 63

/-- Stores for values under texts, of the two sorts that layers are made of. -/
class Store (σ : Type → Type) where
  /-- The most entries that a store which bounds its size only can be laid out for. -/
  maxCapacity : Nat
  /-- Such a store lies in one block, and an entry takes a byte at least. -/
  maxCapacity_lt : maxCapacity < blockLimit
  /-- A new store that bounds its size only. -/
  bounded {α : Type} : (capacity : Nat) → σ α
  /-- A new store that also drops what was not used for the idle time. It may hold whatever decides
  how long that is. -/
  idle {α : Type} : Settings → σ α
  /-- The value under a key, if there is one, and the store after this use. -/
  use {α : Type} : σ α → String → Option α × σ α
  /-- Stores a value that was not found under a key. -/
  put {α : Type} : σ α → String → α → σ α
  /-- Drops all entries. -/
  clear {α : Type} : σ α → σ α
  /-- The number of entries. -/
  size {α : Type} : σ α → Nat

namespace Recent

/-- The bytes of a table: two words and a byte for each bucket, and a group of bytes at the end. -/
def tableBytes (buckets : Nat) : Nat := 17 * buckets + 16

/-- The most buckets of a table. Their number is a power of two. -/
def maxBuckets : Nat := Nat.pow 2 58

/-- The most entries of a table. One in eight buckets stays free. -/
def maxCapacity : Nat := maxBuckets / 8 * 7

theorem tableBytes_maxBuckets :
    tableBytes maxBuckets < blockLimit ∧ blockLimit ≤ tableBytes (2 * maxBuckets) := by
  decide

theorem maxCapacity_lt : maxCapacity < blockLimit := by
  have within := tableBytes_maxBuckets.1
  unfold tableBytes at within
  unfold maxCapacity
  omega

/-- The entries that last until the next use. The clock moves on by at least a nanosecond between
two uses, so with a shorter or the same idle time none does. -/
def lasting (settings : Settings) : Nat :=
  if settings.idleTime.nanos ≤ 1 then 0 else settings.maxEntries

end Recent

instance : Store Recent where
  maxCapacity := Recent.maxCapacity
  maxCapacity_lt := Recent.maxCapacity_lt
  bounded := Recent.empty
  idle settings := Recent.empty (Recent.lasting settings)
  use := Recent.use
  put := Recent.put
  clear := Recent.clear
  size := Recent.size

end AgentClassifier

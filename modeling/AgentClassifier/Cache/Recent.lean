/-!
A store of bounded size that keeps what was used last.

* `Recent` : the entries, the one used last first.
* `Recent.use` : finds an entry and makes it the one used last.
* `Recent.put` : adds an entry that was absent; when the store is full, the entry that was unused
  for the longest time makes room.
-/

namespace AgentClassifier

/-- At most `capacity` values under texts, the one used last first. -/
structure Recent (α : Type) where
  capacity : Nat
  entries : List (String × α)
deriving Repr

namespace Recent

variable {α : Type}

/-- The store without entries. -/
def empty (capacity : Nat) : Recent α := ⟨capacity, []⟩

/-- The keys, the one used last first. -/
def keys (store : Recent α) : List String := store.entries.map fun entry => entry.1

def size (store : Recent α) : Nat := store.entries.length

/-- The value under a key. -/
def find? (store : Recent α) (key : String) : Option α :=
  (store.entries.find? fun entry => entry.1 == key).map fun entry => entry.2

/-- The entries under other keys. -/
def without (entries : List (String × α)) (key : String) : List (String × α) :=
  entries.filter fun entry => entry.1 != key

/-- The value under a key, and the store in which that entry was used last. -/
def use (store : Recent α) (key : String) : Option α × Recent α :=
  match store.find? key with
  | some value =>
      (some value, { store with entries := (key, value) :: without store.entries key })
  | none => (none, store)

/-- Adds an entry as the one used last and drops what exceeds the capacity. -/
def put (store : Recent α) (key : String) (value : α) : Recent α :=
  { store with entries := ((key, value) :: without store.entries key).take store.capacity }

/-- The store with all entries dropped. -/
def clear (store : Recent α) : Recent α := { store with entries := [] }

end Recent

end AgentClassifier

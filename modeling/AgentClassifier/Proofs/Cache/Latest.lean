import Mathlib.Logic.Function.Basic
import AgentClassifier.Proofs.Cache.Recent

/-!
A store may lose what it holds, but it never finds anything else than what was stored last.

* `Store.FindsLatest` : this holds of a store, whatever happens to it from now on.
* `Store.Coherent` : it holds of all new stores of a kind.
* `Store.Forgets`, `Store.Forgetful` : once emptied, a store is as good as new.
* `Recent.coherent`, `Recent.forgetful` : stores that bound their size and keep what was used last
  are such stores.
-/

namespace AgentClassifier

variable {σ : Type → Type} [Store σ] {α : Type}

/-- What happens to a store. -/
inductive StoreEvent (α : Type)
  | use (key : String)
  | put (key : String) (value : α)
  | clear

namespace Store

/-- The store after an event. -/
def step (store : σ α) : StoreEvent α → σ α
  | .use key => (Store.use store key).2
  | .put key value => Store.put store key value
  | .clear => Store.clear store

/-- What was stored last under the keys. -/
def stored (latest : String → Option α) : StoreEvent α → String → Option α
  | .put key value => Function.update latest key (some value)
  | .use _ | .clear => latest

/-- Whatever happens to the store, a key leads to nothing or to what was stored last under it. -/
def FindsLatest (store : σ α) (latest : String → Option α) : Prop :=
  ∀ (events : List (StoreEvent α)) (key : String) (value : α),
    (Store.use (events.foldl step store) key).1 = some value →
      events.foldl stored latest key = some value

/-- In new stores nothing is found but what was stored last. -/
structure Coherent (σ : Type → Type) [Store σ] : Prop where
  bounded {α : Type} (capacity : Nat) : FindsLatest (bounded capacity : σ α) fun _ => none
  idle {α : Type} (settings : Settings) : FindsLatest (idle settings : σ α) fun _ => none

variable {store : σ α} {latest : String → Option α}

theorem FindsLatest.step (finds : FindsLatest store latest) (event : StoreEvent α) :
    FindsLatest (Store.step store event) (stored latest event) :=
  fun events key value found => finds (event :: events) key value found

theorem FindsLatest.latest_eq {key : String} {value : α} (finds : FindsLatest store latest)
    (found : (Store.use store key).1 = some value) : latest key = some value :=
  finds [] key value found

end Store

/-! ## Emptied stores -/

namespace Store

/-- Whatever happens to the store before it is emptied, nothing is found afterwards but what was
stored since. -/
def Forgets (store : σ α) : Prop :=
  ∀ events : List (StoreEvent α), FindsLatest (clear (events.foldl step store)) fun _ => none

/-- New stores of a kind forget what they hold when they are emptied. -/
structure Forgetful (σ : Type → Type) [Store σ] : Prop where
  bounded {α : Type} (capacity : Nat) : Forgets (bounded capacity : σ α)
  idle {α : Type} (settings : Settings) : Forgets (idle settings : σ α)

variable {store : σ α}

theorem Forgets.step (forgets : Forgets store) (event : StoreEvent α) :
    Forgets (Store.step store event) :=
  fun events => forgets (event :: events)

theorem Forgets.clear (forgets : Forgets store) :
    FindsLatest (Store.clear store) fun _ => none :=
  forgets []

end Store

/-! ## Stores that keep what was used last -/

namespace Recent

variable {store : Recent α} {latest : String → Option α}

/-- Everything that is found was stored last. -/
def HoldsLatest (store : Recent α) (latest : String → Option α) : Prop :=
  ∀ key value, store.find? key = some value → latest key = some value

theorem HoldsLatest.step (holds : store.HoldsLatest latest)
    (event : StoreEvent α) :
    (Store.step store event).HoldsLatest (Store.stored latest event) := by
  intro other found here
  cases event with
  | use key =>
      change (store.use key).2.find? other = some found at here
      rw [find?_use] at here
      exact holds other found here
  | put key value =>
      have added := find?_of_put here
      rw [Store.stored, Function.update_apply]
      by_cases same : key = other
      · rw [if_pos same] at added
        rwa [if_pos same.symm]
      · rw [if_neg same] at added
        rw [if_neg (Ne.symm same)]
        exact holds other found added
  | clear => cases here

theorem HoldsLatest.findsLatest (holds : store.HoldsLatest latest) :
    Store.FindsLatest store latest := by
  intro events
  induction events generalizing store latest with
  | nil =>
      intro key value found
      change (store.use key).1 = some value at found
      rw [fst_use] at found
      exact holds key value found
  | cons event events ih => exact ih (holds.step event)

theorem coherent : Store.Coherent Recent where
  bounded _ := HoldsLatest.findsLatest fun _ _ found => by cases found
  idle _ := HoldsLatest.findsLatest fun _ _ found => by cases found

theorem forgetful : Store.Forgetful Recent where
  bounded _ _ := HoldsLatest.findsLatest fun _ _ found => by cases found
  idle _ _ := HoldsLatest.findsLatest fun _ _ found => by cases found

end Recent

end AgentClassifier

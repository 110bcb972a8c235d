import Mathlib.Data.Finset.Card
import AgentClassifier.Proofs.Cache.Recent

/-!
A store loses nothing as long as there is room.

* `Recent.serve` : a request that is answered from the store, or else adds its key.
* `Recent.find?_serve`, `Recent.toFinset_keys_serve` : where there is room, its key is added to what
  was there, and nothing else changes.
* `Store.KeepsFitting` : stores that can be seen as lists of entries, of which none expires and, as
  long as there is room, none is lost.
-/

namespace AgentClassifier

/-! ## Lists of entries -/

namespace Recent

variable {α : Type} {store : Recent α} {key other : String} {value : α}

theorem mem_keys_iff : key ∈ store.keys ↔ ∃ value, store.find? key = some value := by
  rw [← Option.ne_none_iff_exists', ne_eq, find?_eq_none_iff, not_not]

theorem size_eq_card (distinct : store.keys.Nodup) : store.size = store.keys.toFinset.card := by
  rw [List.toFinset_card_of_nodup distinct, keys, List.length_map]
  rfl

theorem nodup_keys_use (distinct : store.keys.Nodup) (key : String) :
    (store.use key).2.keys.Nodup := by
  unfold use
  cases store.find? key with
  | none => exact distinct
  | some value =>
      simp only [keys, List.map_cons, keys_without]
      exact List.nodup_cons.mpr ⟨by simp, distinct.filter _⟩

theorem nodup_keys_put (distinct : store.keys.Nodup) (key : String) (value : α) :
    (store.put key value).keys.Nodup := by
  simp only [put, keys, List.map_take, List.map_cons, keys_without]
  exact (List.nodup_cons.mpr ⟨by simp, distinct.filter _⟩).sublist (List.take_sublist _ _)

/-- Where there is room, adding an entry drops nothing. -/
theorem find?_put (room : store.size < store.capacity) :
    (store.put key value).find? other = if key = other then some value else store.find? other := by
  have fits : ((key, value) :: without store.entries key).length ≤ store.capacity := by
    have fewer : (without store.entries key).length ≤ store.entries.length :=
      List.length_filter_le _ _
    have room : store.entries.length < store.capacity := room
    rw [List.length_cons]
    omega
  rw [put, List.take_of_length_le fits, find?_cons]
  by_cases same : key = other
  · rw [if_pos same, if_pos same]
  · rw [if_neg same, if_neg same, find?_without same]

/-- A request for a key: the entry is used if there is one, and added otherwise. -/
def serve (store : Recent α) (key : String) (value : α) : Recent α :=
  match store.find? key with
  | some _ => (store.use key).2
  | none => store.put key value

theorem capacity_serve (store : Recent α) (key : String) (value : α) :
    (store.serve key value).capacity = store.capacity := by
  unfold serve use
  cases store.find? key <;> rfl

/-- There is room for a key, unless it is there already. -/
def HasRoom (store : Recent α) (key : String) : Prop :=
  store.find? key = none → store.size < store.capacity

theorem hasRoom_of_card (distinct : store.keys.Nodup) {keys : Finset String}
    (known : store.keys.toFinset ⊆ keys) (member : key ∈ keys) (fits : keys.card ≤ store.capacity) :
    store.HasRoom key := by
  intro missing
  have fresh : key ∉ store.keys.toFinset := by
    rw [List.mem_toFinset, ← find?_eq_none_iff]
    exact missing
  have within : (insert key store.keys.toFinset).card ≤ keys.card :=
    Finset.card_le_card (Finset.insert_subset member known)
  rw [Finset.card_insert_of_notMem fresh] at within
  rw [size_eq_card distinct]
  omega

/-- Afterwards the key is there, with its old value if it had one; all others stay as they were. -/
theorem find?_serve (room : store.HasRoom key) :
    (store.serve key value).find? other =
      if key = other then some ((store.find? key).getD value) else store.find? other := by
  unfold serve
  cases present : store.find? key with
  | some held =>
      rw [find?_use]
      by_cases same : key = other
      · rw [if_pos same, ← same, present, Option.getD_some]
      · rw [if_neg same]
  | none => exact find?_put (room present)

theorem toFinset_keys_serve (room : store.HasRoom key) :
    (store.serve key value).keys.toFinset = insert key store.keys.toFinset := by
  ext other
  simp only [List.mem_toFinset, Finset.mem_insert, mem_keys_iff, find?_serve room]
  by_cases same : key = other
  · simp [same]
  · simp [same, Ne.symm same]

end Recent

/-! ## Stores -/

/-- Stores that are seen as lists of entries with different keys, of which none expires: a key is
found if there is an entry for it, a use loses nothing, and as long as there is room, nothing is
lost when an entry is added. -/
structure Store.KeepsFitting {σ : Type → Type} [Store σ]
    (seen : (α : Type) → σ α → Recent α → Prop) : Prop where
  distinct {α : Type} {store : σ α} {recent : Recent α} : seen α store recent → recent.keys.Nodup
  found {α : Type} {store : σ α} {recent : Recent α} (key : String) : seen α store recent →
    (Store.use store key).1 = recent.find? key
  use {α : Type} {store : σ α} {recent : Recent α} (key : String) : seen α store recent →
    seen α (Store.use store key).2 (recent.use key).2
  put {α : Type} {store : σ α} {recent : Recent α} (key : String) (value : α) :
    seen α store recent → recent.find? key = none → recent.size < recent.capacity →
      seen α (Store.put store key value) (recent.put key value)
  size {α : Type} {store : σ α} {recent : Recent α} : seen α store recent →
    Store.size store = recent.size

theorem Recent.keepsFitting :
    Store.KeepsFitting fun α (store recent : Recent α) => store = recent ∧ recent.keys.Nodup where
  distinct held := held.2
  found key held := by rw [← held.1]; exact Recent.fst_use _ key
  use key held := by rw [held.1]; exact ⟨rfl, Recent.nodup_keys_use held.2 key⟩
  put key value held _ _ := by rw [held.1]; exact ⟨rfl, Recent.nodup_keys_put held.2 key value⟩
  size held := by rw [held.1]; rfl

namespace Store.KeepsFitting

variable {σ : Type → Type} [Store σ] {seen : (α : Type) → σ α → Recent α → Prop}
  (keeps : KeepsFitting seen) {α : Type} {store : σ α} {recent : Recent α} {key : String}

include keeps

theorem serve_of_found (held : seen α store recent) {value : α}
    (found : (Store.use store key).1 = some value) (other : α) :
    seen α (Store.use store key).2 (recent.serve key other) := by
  rw [keeps.found key held] at found
  rw [Recent.serve, found]
  exact keeps.use key held

theorem serve_of_missing (held : seen α store recent)
    (missing : (Store.use store key).1 = none) (room : recent.HasRoom key) (value : α) :
    seen α (Store.put (Store.use store key).2 key value) (recent.serve key value) := by
  rw [keeps.found key held] at missing
  have unchanged : (recent.use key).2 = recent := by rw [Recent.use, missing]
  have used := keeps.use key held
  rw [unchanged] at used
  rw [Recent.serve, missing]
  exact keeps.put key value used missing (room missing)

end Store.KeepsFitting

end AgentClassifier

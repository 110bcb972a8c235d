import Mathlib.Data.Finset.Card
import AgentClassifier.Proofs.Cache.Recent
import AgentClassifier.Proofs.Distinct

/-!
A store of bounded size holds the keys that were requested last.

* `IsHit` : when a request is answered from the store, said with the requests alone.
* `mem_latestKeys_iff` : a key is among the latest different ones exactly when it is such a hit.
* `Store.KeepsRecent` : stores that can be seen as lists of entries with the one used last first.
* `Recent.HasLatest.use`, `Recent.HasLatest.put` : a request moves its key to the front, and when
  the store is full, the last of the others makes room.
-/

namespace AgentClassifier

/-! ## The latest different requests -/

/-- A key was requested before, and since then fewer other keys than there is room for. Requests
are listed with the latest first. -/
def IsHit (capacity : Nat) (requests : List String) (key : String) : Prop :=
  key ∈ requests ∧ (requests.takeWhile (· != key)).toFinset.card < capacity

instance (capacity : Nat) (requests : List String) (key : String) :
    Decidable (IsHit capacity requests key) :=
  inferInstanceAs (Decidable (_ ∧ _))

/-- The latest different keys. -/
def latestKeys (capacity : Nat) (requests : List String) : List String :=
  requests.eraseDups.take capacity

/-- Where a key is requested again, it is found if and only if it is one of the latest keys. -/
theorem mem_latestKeys_iff {capacity : Nat} {requests : List String} {key : String} :
    key ∈ latestKeys capacity requests ↔ IsHit capacity requests key := by
  unfold latestKeys IsHit
  by_cases requested : key ∈ requests
  · -- in front of the key stand the different keys that were requested since
    obtain ⟨since, before, rfl, fresh⟩ := List.eq_append_cons_of_mem requested
    have passed : (since ++ key :: before).takeWhile (· != key) = since := by
      rw [List.takeWhile_append_of_pos, List.takeWhile_cons_of_neg, List.append_nil]
      · simp
      · intro other member
        exact bne_iff_ne.mpr (ne_of_mem_of_not_mem member fresh)
    rw [passed, List.eraseDups_append, List.cons_removeAll, if_pos (by simp [fresh]),
      List.eraseDups_cons, List.take_append, List.mem_append, length_eraseDups]
    constructor
    · rintro (early | late)
      · exact absurd (List.mem_eraseDups.mp (List.mem_of_mem_take early)) fresh
      · have room : since.toFinset.card < capacity := by
          by_contra full
          rw [Nat.sub_eq_zero_of_le (Nat.le_of_not_lt full)] at late
          cases late
        exact ⟨requested, room⟩
    · rintro ⟨_, room⟩
      obtain ⟨left, count⟩ := Nat.exists_eq_add_of_lt room
      have positive : capacity - since.toFinset.card = left + 1 := by omega
      rw [positive, List.take_succ_cons]
      exact .inr List.mem_cons_self
  · constructor
    · intro latest
      exact absurd (List.mem_eraseDups.mp (List.mem_of_mem_take latest)) requested
    · intro hit
      exact absurd hit.1 requested

theorem latestKeys_cons (count : Nat) (key : String) (requests : List String) :
    latestKeys (count + 1) (key :: requests) =
      key :: (requests.eraseDups.filter (· != key)).take count := by
  rw [latestKeys, eraseDups_cons_filter, List.take_succ_cons]

theorem length_latestKeys (capacity : Nat) (requests : List String) :
    (latestKeys capacity requests).length = min capacity requests.toFinset.card := by
  rw [latestKeys, List.length_take, length_eraseDups]

/-- Without one key that is not repeated, one place less is enough. -/
theorem take_filter_take {keys : List String} (distinct : keys.Nodup) (key : String) (count : Nat) :
    ((keys.take (count + 1)).filter (· != key)).take count =
      (keys.filter (· != key)).take count := by
  induction keys generalizing count with
  | nil => rfl
  | cons first rest ih =>
      obtain ⟨fresh, distinct⟩ := List.nodup_cons.mp distinct
      rw [List.take_succ_cons, List.filter_cons, List.filter_cons]
      by_cases same : first = key
      · subst same
        have others : rest.filter (· != first) = rest :=
          List.filter_eq_self.mpr fun other member =>
            bne_iff_ne.mpr (ne_of_mem_of_not_mem member fresh)
        have othersTaken : (rest.take count).filter (· != first) = rest.take count :=
          List.filter_eq_self.mpr fun other member =>
            bne_iff_ne.mpr (ne_of_mem_of_not_mem (List.mem_of_mem_take member) fresh)
        rw [if_neg (by simp), if_neg (by simp), others, othersTaken, List.take_take, min_self]
      · rw [if_pos (bne_iff_ne.mpr same), if_pos (bne_iff_ne.mpr same)]
        cases count with
        | zero => rfl
        | succ count => rw [List.take_succ_cons, List.take_succ_cons, ih distinct]

/-! ## Stores -/

namespace Recent

variable {α : Type} {store : Recent α} {capacity : Nat} {requests : List String} {key : String}
  {value : α}

/-- The keys of a store are the latest different requests, the one used last first. -/
structure HasLatest (store : Recent α) (capacity : Nat) (requests : List String) : Prop where
  bound : store.capacity = capacity
  keys : store.keys = latestKeys capacity requests

theorem hasLatest_empty (capacity : Nat) : (empty capacity : Recent α).HasLatest capacity [] :=
  ⟨rfl, by simp [empty, keys, latestKeys]⟩

theorem HasLatest.clear (has : store.HasLatest capacity requests) :
    store.clear.HasLatest capacity [] :=
  ⟨has.bound, by simp [Recent.clear, Recent.keys, latestKeys]⟩

theorem HasLatest.find?_eq_none_iff (has : store.HasLatest capacity requests) :
    store.find? key = none ↔ ¬ IsHit capacity requests key := by
  rw [Recent.find?_eq_none_iff, has.keys, mem_latestKeys_iff]

theorem HasLatest.size_eq (has : store.HasLatest capacity requests) :
    store.size = min capacity requests.toFinset.card := by
  rw [← length_latestKeys, ← has.keys, Recent.keys, List.length_map]
  rfl

/-- A request that finds its key moves it to the front. -/
theorem HasLatest.use (has : store.HasLatest capacity requests) (room : 0 < capacity)
    (found : store.find? key = some value) :
    (store.use key).2.HasLatest capacity (key :: requests) := by
  obtain ⟨count, rfl⟩ := Nat.exists_eq_succ_of_ne_zero room.ne'
  have member : key ∈ store.keys := by
    by_contra missing
    rw [Recent.find?_eq_none_iff.mpr missing] at found
    cases found
  -- the key leaves its place, so nothing is cut off
  have fewer : (store.keys.filter (· != key)).length ≤ count := by
    have short : store.keys.length ≤ count + 1 := by
      rw [has.keys, latestKeys]
      exact List.length_take_le _ _
    have dropped : (store.keys.filter (· != key)).length < store.keys.length :=
      List.length_filter_lt_length_iff_exists.mpr ⟨key, member, by simp⟩
    omega
  constructor
  · rw [← has.bound, Recent.use, found]
  · rw [latestKeys_cons, ← take_filter_take (nodup_eraseDups requests), ← latestKeys, ← has.keys,
      List.take_of_length_le fewer]
    simp only [Recent.use, found, Recent.keys, List.map_cons, keys_without]

/-- A request that does not find its key adds it in front, and the last key makes room. -/
theorem HasLatest.put (has : store.HasLatest capacity requests) (room : 0 < capacity)
    (key : String) (value : α) :
    (store.put key value).HasLatest capacity (key :: requests) := by
  obtain ⟨count, rfl⟩ := Nat.exists_eq_succ_of_ne_zero room.ne'
  constructor
  · exact has.bound
  · rw [latestKeys_cons, ← take_filter_take (nodup_eraseDups requests), ← latestKeys, ← has.keys]
    simp only [Recent.put, Recent.keys, has.bound, List.map_take, List.map_cons, keys_without,
      List.take_succ_cons]

end Recent

namespace Store

variable {σ : Type → Type} [Store σ]

/-- Stores of bounded size that are seen as lists of entries with the one used last first: a key
that is found moves to the front, one that is added comes to the front, and when the store is full,
the last one makes room. -/
structure KeepsRecent (seen : (α : Type) → σ α → Recent α → Prop) : Prop where
  bounded {α : Type} (capacity : Nat) : seen α (bounded capacity) (Recent.empty capacity)
  found {α : Type} {store : σ α} {recent : Recent α} (key : String) : seen α store recent →
    (Store.use store key).1 = recent.find? key
  use {α : Type} {store : σ α} {recent : Recent α} (key : String) : seen α store recent →
    seen α (Store.use store key).2 (recent.use key).2
  put {α : Type} {store : σ α} {recent : Recent α} (key : String) (value : α) :
    seen α store recent → recent.find? key = none →
      seen α (Store.put store key value) (recent.put key value)
  clear {α : Type} {store : σ α} {recent : Recent α} : seen α store recent →
    seen α (Store.clear store) recent.clear
  size {α : Type} {store : σ α} {recent : Recent α} : seen α store recent →
    Store.size store = recent.size

/-- The keys of a store are the latest different requests, the one used last first. -/
def HasLatest (seen : (α : Type) → σ α → Recent α → Prop) {α : Type} (store : σ α)
    (capacity : Nat) (requests : List String) : Prop :=
  ∃ recent, seen α store recent ∧ recent.HasLatest capacity requests

namespace KeepsRecent

variable {seen : (α : Type) → σ α → Recent α → Prop} (keeps : KeepsRecent seen) {α : Type}
  {store : σ α} {capacity : Nat} {requests : List String} {key : String} {value : α}

include keeps

theorem found_eq_none_iff (has : HasLatest seen store capacity requests) :
    (Store.use store key).1 = none ↔ ¬ IsHit capacity requests key := by
  obtain ⟨recent, same, has⟩ := has
  rw [keeps.found key same, has.find?_eq_none_iff]

theorem hasLatest_bounded (capacity : Nat) :
    HasLatest seen (Store.bounded capacity : σ α) capacity [] :=
  ⟨_, keeps.bounded capacity, Recent.hasLatest_empty capacity⟩

theorem hasLatest_clear (has : HasLatest seen store capacity requests) :
    HasLatest seen (Store.clear store) capacity [] := by
  obtain ⟨recent, same, has⟩ := has
  exact ⟨_, keeps.clear same, has.clear⟩

theorem hasLatest_use (room : 0 < capacity) (has : HasLatest seen store capacity requests)
    (found : (Store.use store key).1 = some value) :
    HasLatest seen (Store.use store key).2 capacity (key :: requests) := by
  obtain ⟨recent, same, has⟩ := has
  rw [keeps.found key same] at found
  exact ⟨_, keeps.use key same, has.use room found⟩

theorem hasLatest_put (room : 0 < capacity) (has : HasLatest seen store capacity requests)
    (missing : (Store.use store key).1 = none) (value : α) :
    HasLatest seen (Store.put (Store.use store key).2 key value) capacity (key :: requests) := by
  obtain ⟨recent, same, has⟩ := has
  rw [keeps.found key same] at missing
  have unchanged : (recent.use key).2 = recent := by rw [Recent.use, missing]
  have after := keeps.use key same
  rw [unchanged] at after
  exact ⟨_, keeps.put key value after missing, has.put room key value⟩

theorem size_eq (has : HasLatest seen store capacity requests) :
    Store.size store = min capacity requests.toFinset.card := by
  obtain ⟨recent, same, has⟩ := has
  rw [keeps.size same, has.size_eq]

end KeepsRecent

end Store

theorem Recent.keepsRecent :
    Store.KeepsRecent fun α (store recent : Recent α) => store = recent where
  bounded _ := rfl
  found key same := by rw [← same]; exact Recent.fst_use _ key
  use _ same := by rw [same]; rfl
  put _ _ same _ := by rw [same]; rfl
  clear same := by rw [same]; rfl
  size same := by rw [same]; rfl

end AgentClassifier

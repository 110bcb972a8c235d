import AgentClassifier.Cache.Store

/-!
What is found in stores that keep what was used last.

* `Recent.fst_use`, `Recent.find?_use` : a use finds what is there, and everything stays there.
* `Recent.find?_of_put` : nothing appears but what is added.
* `Recent.find?_eq_none_iff` : the keys are what is found.
-/

namespace AgentClassifier.Recent

variable {α : Type} {capacity : Nat} {entries : List (String × α)} {store : Recent α}
  {key other : String} {value found : α}

theorem find?_cons :
    (⟨capacity, (key, value) :: entries⟩ : Recent α).find? other =
      if key = other then some value else (⟨capacity, entries⟩ : Recent α).find? other := by
  unfold find?
  rw [List.find?_cons]
  by_cases same : key = other
  · rw [if_pos same, beq_iff_eq.mpr same]
    rfl
  · rw [if_neg same, beq_eq_false_iff_ne.mpr same]

theorem find?_without (different : key ≠ other) :
    (⟨capacity, without entries key⟩ : Recent α).find? other =
      (⟨capacity, entries⟩ : Recent α).find? other := by
  unfold find? without
  rw [List.find?_filter]
  congr 2
  funext entry
  by_cases same : entry.1 = other
  · simp [same, different.symm]
  · simp [same]

theorem find?_of_take {count : Nat}
    (here : (⟨capacity, entries.take count⟩ : Recent α).find? key = some found) :
    (⟨capacity, entries⟩ : Recent α).find? key = some found := by
  obtain ⟨entry, first, rfl⟩ := Option.map_eq_some_iff.mp here
  exact Option.map_eq_some_iff.mpr ⟨entry, (List.take_prefix _ _).find?_eq_some first, rfl⟩

/-- A use changes the order of the entries only. -/
theorem find?_use (store : Recent α) (key other : String) :
    (store.use key).2.find? other = store.find? other := by
  unfold use
  cases present : store.find? key with
  | none => rfl
  | some value =>
      rw [find?_cons]
      by_cases same : key = other
      · rw [if_pos same, ← same, present]
      · rw [if_neg same, find?_without same]

theorem fst_use (store : Recent α) (key : String) : (store.use key).1 = store.find? key := by
  unfold use
  cases store.find? key with
  | none => rfl
  | some value => rfl

/-- Only what is added becomes found, and what was there may be lost. -/
theorem find?_of_put (here : (store.put key value).find? other = some found) :
    (if key = other then some value else store.find? other) = some found := by
  have before := find?_of_take here
  rw [find?_cons] at before
  by_cases same : key = other
  · rwa [if_pos same] at before ⊢
  · rw [if_neg same, find?_without same] at before
    rwa [if_neg same]

theorem keys_without (entries : List (String × α)) (key : String) :
    (without entries key).map (fun entry => entry.1) =
      (entries.map fun entry => entry.1).filter (· != key) := by
  rw [without, List.filter_map]
  rfl

theorem find?_eq_none_iff {store : Recent α} {key : String} :
    store.find? key = none ↔ key ∉ store.keys := by
  rw [find?, Option.map_eq_none_iff, List.find?_eq_none, keys, List.mem_map]
  constructor
  · rintro missing ⟨entry, member, same⟩
    exact missing entry member (beq_iff_eq.mpr same)
  · intro missing entry member same
    exact missing ⟨entry, member, beq_iff_eq.mp same⟩

end AgentClassifier.Recent

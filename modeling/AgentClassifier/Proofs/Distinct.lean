import Mathlib.Data.Finset.Card

/-!
The different elements of a list of keys, in order of their first appearance.

* `eraseDups_cons_filter` : behind the first key stand the different ones of the others.
* `eraseDups_concat` : a key behind the others counts if it is none of them.
* `nodup_eraseDups`, `length_eraseDups` : each key is there once, so they are as many as the keys of
  the set.
-/

namespace AgentClassifier

theorem eraseDups_filter (keep : String → Bool) (keys : List String) :
    (keys.filter keep).eraseDups = keys.eraseDups.filter keep := by
  cases keys with
  | nil => rfl
  | cons key rest =>
      have shorter : (rest.filter fun other => !other == key).length ≤ rest.length :=
        List.length_filter_le _ _
      have others := eraseDups_filter keep (rest.filter fun other => !other == key)
      rw [List.eraseDups_cons, List.filter_cons, List.filter_cons, ← others]
      cases kept : keep key with
      | true =>
          rw [if_pos rfl, if_pos rfl, List.eraseDups_cons]
          simp only [List.filter_filter, Bool.and_comm]
      | false =>
          rw [if_neg Bool.false_ne_true, if_neg Bool.false_ne_true, List.filter_filter]
          congr 1
          refine List.filter_congr fun other _ => ?_
          -- what is kept is another key anyway
          by_cases same : other = key
          · rw [same, kept, Bool.false_and]
          · simp [same]
termination_by keys.length

theorem eraseDups_cons_filter (key : String) (keys : List String) :
    (key :: keys).eraseDups = key :: keys.eraseDups.filter (· != key) := by
  rw [List.eraseDups_cons, eraseDups_filter]
  rfl

theorem nodup_eraseDups (keys : List String) : keys.eraseDups.Nodup := by
  induction keys with
  | nil => exact List.nodup_nil
  | cons key rest ih =>
      rw [eraseDups_cons_filter]
      exact List.nodup_cons.mpr ⟨by simp, ih.filter _⟩

theorem length_eraseDups (keys : List String) : keys.eraseDups.length = keys.toFinset.card := by
  rw [← List.toFinset_card_of_nodup (nodup_eraseDups keys)]
  congr 1
  ext key
  simp

/-- A key at the end is new unless it was there before. -/
theorem eraseDups_concat (keys : List String) (key : String) :
    (keys ++ [key]).eraseDups =
      keys.eraseDups ++ if key ∈ keys.eraseDups then [] else [key] := by
  rw [List.eraseDups_append]
  by_cases known : key ∈ keys <;> simp [List.removeAll, List.eraseDups_cons, known]

end AgentClassifier

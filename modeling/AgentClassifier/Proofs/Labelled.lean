import AgentClassifier.Labelled
import AgentClassifier.Proofs.Distinct

/-!
What is left of pairs that are put into a labelled list one by one.

* `Labelled.lastUnder?` : the last pair with a label.
* `Labelled.settled` : each label once, at the place of its first pair, with the value of its last one.
* `Labelled.ofPairs_eq` : this is the labelled list.
-/

namespace AgentClassifier.Labelled

variable {α : Type} {pairs : List (String × α)}

/-- The last pair with a label. -/
def lastUnder? (pairs : List (String × α)) (label : String) : Option (String × α) :=
  pairs.reverse.find? fun pair => pair.1 == label

/-- Each label once, at the place of its first pair, with the value of its last one. -/
def settled (pairs : List (String × α)) : Labelled α :=
  (pairs.map Prod.fst).eraseDups.filterMap (lastUnder? pairs)

theorem lastUnder?_concat (pair : String × α) :
    lastUnder? (pairs ++ [pair]) = Function.update (lastUnder? pairs) pair.1 (some pair) := by
  funext label
  rw [lastUnder?, List.reverse_append, List.reverse_singleton, List.singleton_append]
  by_cases same : label = pair.1
  · rw [same, Function.update_self, List.find?_cons_of_pos]
    exact beq_self_eq_true _
  · rw [Function.update_of_ne same, List.find?_cons_of_neg]
    · rfl
    · exact fun found => same (beq_iff_eq.mp found).symm

theorem lastUnder?_of_mem {label : String} (member : label ∈ pairs.map Prod.fst) :
    ∃ value, lastUnder? pairs label = some (label, value) := by
  obtain ⟨pair, isPair, rfl⟩ := List.mem_map.mp member
  unfold lastUnder?
  cases found : pairs.reverse.find? fun other => other.1 == pair.1 with
  | none =>
      have none := List.find?_eq_none.mp found pair (List.mem_reverse.mpr isPair)
      exact absurd (beq_self_eq_true _) none
  | some last =>
      have same : last.1 = pair.1 := by simpa using List.find?_some found
      exact ⟨last.2, by rw [← same]⟩

/-- A value that is put under a label replaces the one that is there, and stands behind all others if
there is none. -/
theorem insert_filterMap {find : String → Option (String × α)} {labels : List String}
    (named : ∀ label ∈ labels, ∃ value, find label = some (label, value)) (distinct : labels.Nodup)
    (pair : String × α) :
    insert pair.1 pair.2 (labels.filterMap find) =
      (labels ++ if pair.1 ∈ labels then [] else [pair.1]).filterMap
        (Function.update find pair.1 (some pair)) := by
  induction labels with
  | nil => simp [insert]
  | cons label rest ih =>
      obtain ⟨⟨value, found⟩, named⟩ := List.forall_mem_cons.mp named
      obtain ⟨fresh, distinct⟩ := List.nodup_cons.mp distinct
      rw [List.filterMap_cons_some found, insert]
      by_cases same : label = pair.1
      · subst same
        have kept : rest.filterMap find =
            rest.filterMap (Function.update find pair.1 (some pair)) :=
          List.filterMap_congr fun other member => by
            rw [Function.update_of_ne (ne_of_mem_of_not_mem member fresh)]
        rw [if_pos rfl, if_pos List.mem_cons_self, List.append_nil, kept,
          List.filterMap_cons_some (Function.update_self ..)]
      · have other : pair.1 ∈ label :: rest ↔ pair.1 ∈ rest := by
          rw [List.mem_cons, or_iff_right (Ne.symm same)]
        rw [if_neg same, ih named distinct, List.cons_append, List.filterMap_cons_some
          ((Function.update_of_ne same ..).trans found)]
        simp only [other]

/-- Pairs that are put in one by one leave each label once, at the place of its first pair, with the
value of its last one. -/
theorem ofPairs_eq (pairs : List (String × α)) : ofPairs pairs = settled pairs := by
  induction pairs using List.reverseRecOn with
  | nil => rfl
  | append_singleton pairs pair ih =>
      rw [settled, List.map_append, List.map_singleton, eraseDups_concat, lastUnder?_concat, ofPairs,
        List.foldl_append, List.foldl_cons, List.foldl_nil, ← ofPairs, ih]
      refine insert_filterMap (fun label member => ?_) (nodup_eraseDups _) pair
      exact lastUnder?_of_mem (List.mem_eraseDups.mp member)

end AgentClassifier.Labelled

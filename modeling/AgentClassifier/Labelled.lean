/-!
Lists of values under labels, in order of their first appearance.

* `Labelled.insert` : a label that is there already gets the new value and keeps its place.
* `Labelled.ofPairs` : the list made by inserting pairs one by one.
-/

namespace AgentClassifier

/-- Values under labels, in order. -/
abbrev Labelled (α : Type) := List (String × α)

namespace Labelled

/-- Puts a value under a label. -/
def insert {α : Type} (label : String) (value : α) : Labelled α → Labelled α
  | [] => [(label, value)]
  | (key, old) :: rest =>
      if key = label then (key, value) :: rest else (key, old) :: insert label value rest

/-- Inserts the pairs one by one. -/
def ofPairs {α : Type} (pairs : List (String × α)) : Labelled α :=
  pairs.foldl (fun labelled pair => insert pair.1 pair.2 labelled) []

end Labelled

end AgentClassifier

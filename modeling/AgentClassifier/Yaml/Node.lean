import AgentClassifier.Yaml.Scalar

/-!
The nodes of a document.

* `Node` : scalars, sequences and mappings, and references to other nodes.
* `Document` : a node with the nodes that references in it mean.
* `Anchors.follow?` : the node itself, or the one that a reference means.
-/

namespace AgentClassifier.Yaml

/-- A node of a document. -/
inductive Node
  | scalar (tag : Option String) (scalar : Scalar)
  | sequence (items : List Node)
  | mapping (entries : List (Node × Node))
  /-- A reference by the number of an anchor. -/
  | alias (number : Nat)
deriving Repr, Inhabited

/-- The node that stands where nothing is written. -/
def Node.empty : Node := .scalar none Scalar.empty

/-- The nodes with an anchor under the numbers of their anchors, in the order in which they
begin. -/
abbrev Anchors := List (Nat × Node)

/-- The node that a node stands for. Where several anchors have a number, the last one counts. -/
def Anchors.follow? (anchors : Anchors) : Node → Option Node
  | .alias number =>
      (anchors.reverse.find? fun anchored => anchored.1 == number).map fun anchored => anchored.2
  | node => some node

/-- A document: its node, and the nodes that have an anchor. -/
structure Document where
  root : Node
  anchors : Anchors
deriving Repr, Inhabited

end AgentClassifier.Yaml

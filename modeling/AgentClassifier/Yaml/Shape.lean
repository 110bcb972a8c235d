import AgentClassifier.Labelled
import AgentClassifier.Yaml.Node

/-!
Nodes read as values of a known shape.

* `Anchors.text?`, `Anchors.optionalText?` : texts, and texts that may be missing.
* `Anchors.list?`, `Anchors.labelled?` : lists and labelled values.
* `Anchors.fields?`, `Fields.read?` : records; a field may be missing but not come twice, and
  fields that are not asked for do not matter.

Lists, labelled values and records may also be written as nothing; then they are empty.
-/

namespace AgentClassifier.Yaml

/-! ## Scalars -/

/-- The ways to write that there is no value. -/
def isNull (text : String) : Bool :=
  text == "~" || text == "null" || text == "Null" || text == "NULL"

/-- The tag of missing values. -/
def nullTag : String := "tag:yaml.org,2002:null"

/-- Whether the scalar stands for nothing at all. -/
def Scalar.isNothing (scalar : Scalar) : Bool := scalar.style == .plain && scalar.text.isEmpty

namespace Anchors

/-- The scalar that a node is, with its tag. -/
def scalar? (anchors : Anchors) (node : Node) : Option (Option String × Scalar) :=
  match anchors.follow? node with
  | some (.scalar tag scalar) => some (tag, scalar)
  | _ => none

/-- The text of any scalar. -/
def text? (anchors : Anchors) (node : Node) : Option String :=
  (anchors.scalar? node).map fun scalar => scalar.2.text

/-- The text of a scalar that may say that there is none: only a plain scalar can. -/
def optionalText? (anchors : Anchors) (node : Node) : Option (Option String) := do
  let (tag, scalar) ← anchors.scalar? node
  if scalar.style ≠ .plain then return some scalar.text
  match tag with
  | none => return if scalar.text.isEmpty || isNull scalar.text then none else some scalar.text
  | some tag =>
      if tag ≠ nullTag then return some scalar.text
      else if isNull scalar.text then return none
      else none

/-! ## Collections -/

/-- The items of a sequence. -/
def items? (anchors : Anchors) (node : Node) : Option (List Node) :=
  match anchors.follow? node with
  | some (.sequence items) => some items
  | some (.scalar _ scalar) => if scalar.isNothing then some [] else none
  | _ => none

/-- The entries of a mapping. -/
def entries? (anchors : Anchors) (node : Node) : Option (List (Node × Node)) :=
  match anchors.follow? node with
  | some (.mapping entries) => some entries
  | some (.scalar _ scalar) => if scalar.isNothing then some [] else none
  | _ => none

/-- A list of values. -/
def list? {α : Type} (anchors : Anchors) (read? : Node → Option α) (node : Node) :
    Option (List α) := do
  (← anchors.items? node).mapM read?

end Anchors

/-- The nodes of a mapping under texts, in order. -/
abbrev Fields := List (String × Node)

namespace Anchors

/-- The entries of a mapping whose keys are texts. -/
def fields? (anchors : Anchors) (node : Node) : Option Fields := do
  (← anchors.entries? node).mapM fun (key, value) =>
    (anchors.text? key).map fun name => (name, value)

/-- Values under texts; of those under the same text the last one counts. -/
def labelled? {α : Type} (anchors : Anchors) (read? : Node → Option α) (node : Node) :
    Option (Labelled α) := do
  let values ← (← anchors.fields? node).mapM fun (name, value) =>
    (read? value).map fun value => (name, value)
  return Labelled.ofPairs values

end Anchors

/-- The value of a field, or `missing` if there is none of that name. -/
def Fields.read? {α : Type} (fields : Fields) (name : String) (missing : α)
    (read? : Node → Option α) : Option α :=
  match fields.filter fun field => field.1 == name with
  | [] => some missing
  | [field] => read? field.2
  | _ => none

end AgentClassifier.Yaml

import AgentClassifier.Error
import AgentClassifier.Rules
import AgentClassifier.Yaml.Document
import AgentClassifier.Yaml.Shape

/-!
Rule tables read from documents.

* `Yaml.Anchors.record?` : a record of optional texts; `UserAgentRule.ofNode?` and its companions
  read rules as such records.
* `RuleTable.ofDocument?` : a table with a list of rules for each category; a list that is missing
  is empty, and a field of a rule that is missing or null has no value.
* `RuleTable.ofText`, `RuleTable.ofBytes`, `RuleTable.ofFile` : tables from their written form.
-/

namespace AgentClassifier

open Yaml (Anchors Node)

/-- Reads a record of optional texts under the given keys. What is made of them is told by the text
under each key. -/
def Yaml.Anchors.record? {ρ : Type} (anchors : Anchors) (keys : List String)
    (ofFields : (String → Option String) → ρ) (node : Node) : Option ρ := do
  let fields ← anchors.fields? node
  let texts ← keys.mapM fun key =>
    (fields.read? key none anchors.optionalText?).map fun text => (key, text)
  return ofFields fun key => (texts.lookup key).join

/-! ## Rules -/

/-- The keys of the fields of a rule for user agents. -/
def UserAgentRule.keys : List String :=
  ["regex", "family_replacement", "v1_replacement", "v2_replacement"]

/-- The rule with the given texts under its keys. -/
def UserAgentRule.ofFields (field : String → Option String) : UserAgentRule where
  regex := field "regex"
  family := field "family_replacement"
  major := field "v1_replacement"
  minor := field "v2_replacement"

/-- Reads a rule for user agents. -/
def UserAgentRule.ofNode? (anchors : Anchors) (node : Node) : Option UserAgentRule :=
  anchors.record? keys ofFields node

/-- The keys of the fields of a rule for operating systems. -/
def OsRule.keys : List String :=
  ["regex", "os_replacement", "os_v1_replacement", "os_v2_replacement", "os_v3_replacement"]

/-- The rule with the given texts under its keys. -/
def OsRule.ofFields (field : String → Option String) : OsRule where
  regex := field "regex"
  family := field "os_replacement"
  major := field "os_v1_replacement"
  minor := field "os_v2_replacement"
  patch := field "os_v3_replacement"

/-- Reads a rule for operating systems. -/
def OsRule.ofNode? (anchors : Anchors) (node : Node) : Option OsRule :=
  anchors.record? keys ofFields node

/-- The keys of the fields of a rule for devices. -/
def DeviceRule.keys : List String :=
  ["regex", "regex_flag", "device_replacement", "brand_replacement", "model_replacement"]

/-- The rule with the given texts under its keys. -/
def DeviceRule.ofFields (field : String → Option String) : DeviceRule where
  regex := field "regex"
  flag := field "regex_flag"
  family := field "device_replacement"
  brand := field "brand_replacement"
  model := field "model_replacement"

/-- Reads a rule for devices. -/
def DeviceRule.ofNode? (anchors : Anchors) (node : Node) : Option DeviceRule :=
  anchors.record? keys ofFields node

/-! ## Tables -/

namespace RuleTable

/-- Reads the table that a document holds. -/
def ofDocument? (document : Yaml.Document) : Option RuleTable := do
  let anchors := document.anchors
  let fields ← anchors.fields? document.root
  return {
    userAgents := ← fields.read? "user_agent_parsers" []
      (anchors.list? (UserAgentRule.ofNode? anchors))
    systems := ← fields.read? "os_parsers" [] (anchors.list? (OsRule.ofNode? anchors))
    devices := ← fields.read? "device_parsers" [] (anchors.list? (DeviceRule.ofNode? anchors)) }

/-- The table that is written in a text. -/
def ofText (text : String) : Except BuildError RuleTable :=
  match (Yaml.Document.ofText? text).bind ofDocument? with
  | some table => .ok table
  | none => .error .document

/-- The table that is written in bytes, which have to be UTF-8. -/
def ofBytes (bytes : ByteArray) : Except BuildError RuleTable :=
  match String.fromUTF8? bytes with
  | some text => ofText text
  | none => .error .document

/-- The table in a file, given the bytes of the file if it exists. -/
def ofFile (content : Option ByteArray) : Except BuildError RuleTable :=
  match content with
  | none => .error .fileNotFound
  | some bytes =>
      match String.fromUTF8? bytes with
      | some text => ofText text
      | none => .error .fileNotText

end RuleTable

end AgentClassifier

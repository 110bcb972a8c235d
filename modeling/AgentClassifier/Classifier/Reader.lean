import AgentClassifier.Classifier
import AgentClassifier.Yaml.Document
import AgentClassifier.Yaml.Shape

/-!
Hints for the classifiers read from documents.

* `PlatformHints.ofText` : labelled hints for mobile devices and for tablets.
* `ManufacturerHints.ofText` : lists of hints under the names of manufacturers.
-/

namespace AgentClassifier

open Yaml (Anchors)

/-- Reads the hints for platforms that a document holds; missing ones are empty. -/
def PlatformHints.ofDocument? (document : Yaml.Document) : Option PlatformHints := do
  let anchors := document.anchors
  let fields ← anchors.fields? document.root
  let hints? (name : String) := fields.read? name [] (anchors.labelled? anchors.text?)
  return { mobile := ← hints? "mobile", tablet := ← hints? "tablet" }

/-- The hints for platforms that are written in a text. -/
def PlatformHints.ofText (text : String) : Except BuildError PlatformHints :=
  match (Yaml.Document.ofText? text).bind ofDocument? with
  | some hints => .ok hints
  | none => .error .document

/-- Reads the hints for manufacturers that a document holds. -/
def ManufacturerHints.ofDocument? (document : Yaml.Document) : Option ManufacturerHints :=
  let anchors := document.anchors
  anchors.labelled? (anchors.list? anchors.text?) document.root

/-- The hints for manufacturers that are written in a text. -/
def ManufacturerHints.ofText (text : String) : Except BuildError ManufacturerHints :=
  match (Yaml.Document.ofText? text).bind ofDocument? with
  | some hints => .ok hints
  | none => .error .document

end AgentClassifier

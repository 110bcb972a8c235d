import AgentClassifier.Cache.Settings
import AgentClassifier.Decimal
import AgentClassifier.Yaml.Document
import AgentClassifier.Yaml.Shape

/-!
Settings of caches read from documents.

* `countOf?` : a number of entries, in decimal digits or with one of the marks `0x`, `0o`, `0b`.
* `idleTimeOf?` : a number of seconds with a point or an exponent, rounded to nanoseconds.
* `Settings.ofText` : the settings in a text; what is missing has its default.
-/

namespace AgentClassifier

open Yaml (Anchors Node)

/-- The text of a number: a plain scalar, or a block that keeps its lines and has the tag. -/
def numberText? (anchors : Anchors) (kind : String) (node : Node) : Option (List Char) :=
  match anchors.scalar? node with
  | some (tag, scalar) =>
      let tagged := tag == some ("tag:yaml.org,2002:" ++ kind)
      if scalar.style == .plain || (scalar.style == .literal && tagged) then
        some scalar.text.toList
      else none
  | none => none

/-- The text without one plus sign at its start. -/
def withoutPlus : List Char → List Char
  | '+' :: text => text
  | text => text

/-! ## Numbers of entries -/

/-- Reads a whole number. In decimal digits it has no zero in front. -/
def countOf? (text : List Char) : Option Nat :=
  match withoutPlus text with
  | '0' :: 'x' :: digits => natOfDigits? 16 digits
  | '0' :: 'o' :: digits => natOfDigits? 8 digits
  | '0' :: 'b' :: digits => natOfDigits? 2 digits
  | '0' :: _ :: _ => none
  | digits => natOfDigits? 10 digits

/-- Reads a number of entries, which has to be countable. -/
def maxEntriesOf? (anchors : Anchors) (node : Node) : Option Nat := do
  let count ← countOf? (← numberText? anchors "int" node)
  if count < Settings.countLimit then some count else none

/-! ## Idle times -/

/-- One more than the most seconds that an idle time can have. -/
def secsLimit : Nat := Nat.pow 2 64

/-- The idle time of a number of seconds. The number is taken as binary floating point first, and
may not be below zero then. -/
def Duration.ofDecimal? (decimal : Decimal) : Option Duration :=
  if 20 < decimal.order ∧ decimal.digits ≠ 0 then none
  else
    let size := decimal.toBinary64
    if (decimal.negative ∧ size ≠ 0) ∨ secsLimit * Binary64.one ≤ size then none
    else some ⟨roundHalfEven (size * nanosPerSec) Binary64.one⟩

/-- Reads an idle time. -/
def idleTimeOf? (anchors : Anchors) (node : Node) : Option Duration := do
  let text ← numberText? anchors "float" node
  Duration.ofDecimal? (← Decimal.ofText? text)

/-! ## Settings -/

namespace Settings

/-- Reads the settings that a document holds. -/
def ofDocument? (document : Yaml.Document) : Option Settings := do
  let anchors := document.anchors
  let fields ← anchors.fields? document.root
  return {
    maxEntries := ← fields.read? "max_entries" default.maxEntries (maxEntriesOf? anchors)
    idleTime := ← fields.read? "time_to_idle_secs" default.idleTime (idleTimeOf? anchors) }

/-- The settings that are written in a text. -/
def ofText (text : String) : Except BuildError Settings :=
  match (Yaml.Document.ofText? text).bind ofDocument? with
  | some settings => .ok settings
  | none => .error .document

end Settings

end AgentClassifier

import AgentClassifier.CharSet.Category
import AgentClassifier.CharSet.Property
import AgentClassifier.CharSet.Script

/-!
Character sets by the names that patterns use for them.

* `CharSet.looseName` : the form in which property names are compared.
* `CharSet.named?` : a set by one name, as in `\p{Greek}`.
* `CharSet.valued?` : a set by property and value, as in `\p{script=Greek}`.
* `CharSet.asciiClass?` : the ASCII classes, as in `[:alpha:]`.
-/

namespace AgentClassifier.CharSet

/-- A name without blanks, underscores, hyphens and non-ASCII characters, in lower case and
without a leading `is`. -/
def looseName (name : List Char) : String :=
  let lower := name.map Char.toLower
  let (body, dropped) := match lower with
    | 'i' :: 's' :: rest => (rest, true)
    | _ => (lower, false)
  let kept := body.filter fun c => c != ' ' && c != '_' && c != '-' && c.toNat < 0x80
  if dropped && kept == ['c'] then "isc" else String.ofList kept

/-- A set by one name: a yes-or-no property, else a general category, else a script. The names
`cf`, `sc` and `lc` are categories only. -/
def named? (name : List Char) : Option CharSet :=
  let name := looseName name
  (property? name).or ((category? name).or (NamedCharSet.find? scripts name))

/-- A set by the name of a property and one of its values. -/
def valued? (property value : List Char) : Option CharSet :=
  let value := looseName value
  match looseName property with
  | "gc" | "generalcategory" => category? value
  | "sc" | "script" => NamedCharSet.find? scripts value
  | "scx" | "scriptextensions" => NamedCharSet.find? scriptExtensions value
  | _ => none

/-- A set by the name of an ASCII class. -/
def asciiClass? (name : List Char) : Option CharSet :=
  match String.ofList name with
  | "alnum" => some (ofRanges [(0x30, 0x39), (0x41, 0x5A), (0x61, 0x7A)])
  | "alpha" => some (ofRanges [(0x41, 0x5A), (0x61, 0x7A)])
  | "ascii" => some (range 0 0x7F)
  | "blank" => some (ofRanges [(9, 9), (0x20, 0x20)])
  | "cntrl" => some (ofRanges [(0, 0x1F), (0x7F, 0x7F)])
  | "digit" => some (range 0x30 0x39)
  | "graph" => some (range 0x21 0x7E)
  | "lower" => some (range 0x61 0x7A)
  | "print" => some (range 0x20 0x7E)
  | "punct" => some (ofRanges [(0x21, 0x2F), (0x3A, 0x40), (0x5B, 0x60), (0x7B, 0x7E)])
  | "space" => some (ofRanges [(9, 0xD), (0x20, 0x20)])
  | "upper" => some (range 0x41 0x5A)
  | "word" => some (ofRanges [(0x30, 0x39), (0x41, 0x5A), (0x5F, 0x5F), (0x61, 0x7A)])
  | "xdigit" => some (ofRanges [(0x30, 0x39), (0x41, 0x46), (0x61, 0x66)])
  | _ => none

end AgentClassifier.CharSet

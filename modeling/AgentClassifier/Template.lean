import AgentClassifier.Pattern
import AgentClassifier.Text.Blank

/-!
Templates: texts with references to the groups of a match.

* `Template.segments` : a template cut into references and single characters. A reference is a
  dollar sign with one ASCII digit; every other character stands for itself.
* `Template.raw` : the segments with the text of the groups put in, in one pass.
* `Template.expand` : the value of a template. One without a dollar sign stands for itself; the
  value of one with a dollar sign is trimmed. A blank value is none.
* `resolve` : a template, or a group where no template is given.
-/

namespace AgentClassifier

/-- A piece of a template. -/
inductive Template.Segment
  /-- The text of a group. -/
  | reference (group : Nat)
  | char (c : Char)
deriving DecidableEq, Repr

namespace Template

/-- The value of an ASCII digit. -/
def digit? (c : Char) : Option Nat :=
  if '0' ≤ c ∧ c ≤ '9' then some (c.toNat - '0'.toNat) else none

/-- Cuts a template into segments, from left to right. -/
def segments : List Char → List Segment
  | [] => []
  | [c] => [.char c]
  | c :: next :: rest =>
      if c = '$' then
        match digit? next with
        | some group => .reference group :: segments rest
        | none => .char c :: segments (next :: rest)
      else .char c :: segments (next :: rest)

/-- The text that a segment contributes; a group that did not take part contributes nothing. -/
def Segment.text (captures : Captures) : Segment → List Char
  | reference group => ((captures.group? group).getD "").toList
  | char c => [c]

/-- The segments of a template with the text of the groups put in. -/
def raw (template : List Char) (captures : Captures) : List Char :=
  (segments template).flatMap (Segment.text captures)

/-- The value of a template, unless it is blank. -/
def expand (template : String) (captures : Captures) : Option String :=
  let chars := template.toList
  if chars.contains '$' then
    (Blank.unlessBlank (Blank.trim (raw chars captures))).map String.ofList
  else (Blank.unlessBlank chars).map fun _ => template

end Template

/-- The text of a group, unless it is empty. -/
def Captures.nonempty? (captures : Captures) (group : Nat) : Option String :=
  (captures.group? group).filter fun text => text != ""

/-- The value of a template; where there is none, the text of a group. A template that is there
never falls back on the group. -/
def resolve (template : Option String) (captures : Captures) (group : Option Nat) :
    Option String :=
  match template with
  | some template => Template.expand template captures
  | none => group.bind captures.nonempty?

end AgentClassifier

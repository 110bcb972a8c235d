import AgentClassifier.Pattern.Extended.Reader
import AgentClassifier.Pattern.Literals
import AgentClassifier.Pattern.Machine

/-!
Patterns: compiled once, then searched in texts.

* `Pattern.compileWithin?` : compiles a text; letters match in either case if asked. The regular
  expressions have to be small enough.
* `Pattern.compile?` : compiles within an estimate of what is small enough.
* `Pattern.search` : the leftmost match with its groups, none, or no answer within the limits.
* `Pattern.occursIn` : whether a match is found.

A pattern that a regular expression can match is matched as one; the others run on the
backtracking machine, which gives up a search that resumes too often.
-/

namespace AgentClassifier

open Pattern

/-- How a pattern is matched. -/
inductive Pattern.Engine
  | regular (expression : Regular)
  | machine (program : Array Instruction)

/-- A compiled pattern. -/
structure Pattern where
  /-- The text that was compiled. -/
  source : String
  engine : Pattern.Engine

/-- What the groups of a match recorded. Group 0 is the whole match. -/
structure Captures where
  text : Subject
  span? : Nat → Option (Nat × Nat)

/-- The text that a group recorded, if it took part in the match. -/
def Captures.group? (captures : Captures) (group : Nat) : Option String :=
  (captures.span? group).map fun (start, stop) =>
    String.ofList (captures.text.extract start stop).toList

namespace Pattern

section

variable (admits : Regular → Bool)

/-- The engine for an expression. -/
def Engine.ofExtended? (expression : Extended) (referenced : List Nat) : Option Engine :=
  if !expression.referencesOpen then none
  else if expression.needsMachine referenced then
    let groups := (expression.openedAfter? 1).getD 1
    (expression.program? admits referenced groups).map .machine
  else
    match expression.toRegular? with
    | some expression => if admits expression then some (.regular expression) else none
    | none => none

/-- The engine for a pattern given as characters. -/
def Engine.readWithin? (pattern : List Char) : Option Engine :=
  match Extended.read? pattern with
  | some (expression, referenced) => Engine.ofExtended? admits expression referenced
  | none => none

/-- The text that is compiled: to ignore case, the pattern starts with the switch for it. -/
def switched (ignoreCase : Bool) (pattern : List Char) : List Char :=
  if ignoreCase then ['(', '?', 'i', ')'] ++ pattern else pattern

/-- Compiles a pattern with the regular expressions that are admitted. -/
def compileWithin? (source : String) (ignoreCase : Bool) : Option Pattern :=
  (Engine.readWithin? admits (switched ignoreCase source.toList)).map fun engine =>
    ⟨source, engine⟩

end

/-- Compiles a pattern with the regular expressions that seem small enough. -/
def compile? (source : String) (ignoreCase : Bool) : Option Pattern :=
  compileWithin? Regular.seemsSmall source ignoreCase

/-- The captures of a regular match. -/
def capturesOfReach (text : Subject) (start : Nat) (reach : Reach) : Captures where
  text := text
  span? group :=
    if group = 0 then some (start, reach.stop)
    else (reach.spans.find? fun span => span.group == group).map fun span =>
      (span.start, span.stop)

/-- The captures of a finished machine. The start of the whole match is not after its end. -/
def capturesOfMemory (text : Subject) (memory : Memory) : Captures where
  text := text
  span? group :=
    match memory.get? (2 * group), memory.get? (2 * group + 1) with
    | some start, some stop => some (if group = 0 then min start stop else start, stop)
    | _, _ => none

/-- The leftmost match in a text. -/
def searchIn (pattern : Pattern) (text : Subject) : Outcome Captures :=
  match pattern.engine with
  | .regular expression =>
      match expression.search? text with
      | some (start, reach) => .found (capturesOfReach text start reach)
      | none => .absent
  | .machine program => (Machine.search program text).map (capturesOfMemory text)

/-- The leftmost match in a text. -/
def search (pattern : Pattern) (text : String) : Outcome Captures :=
  pattern.searchIn text.toList.toArray

/-- Whether a match is found; a search given up counts as none. -/
def occursIn (pattern : Pattern) (text : String) : Bool :=
  match pattern.search text with
  | .found _ => true
  | .absent | .exhausted => false

end Pattern

end AgentClassifier

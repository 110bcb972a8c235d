import AgentClassifier.CharSet.Folding
import AgentClassifier.Pattern.Regular

/-!
Extended expressions: regular ones with look-around, back-references, atomic groups, conditionals
and a movable start of the match.

* `Extended` : the expressions.
* `Extended.minSize`, `Extended.constSize` : how many characters a match consumes.
* `Extended.needsMachine` : whether matching needs more than a regular expression.
* `Extended.toRegular?` : the regular expression with the same matches.
* `Extended.referencesOpen` : references point only to groups that were opened before them.
-/

namespace AgentClassifier.Pattern

/-- An extended expression. -/
inductive Extended
  | empty
  /-- One character, in either case if asked. -/
  | literal (c : Char) (ignoreCase : Bool)
  /-- Any character, the line feed only if asked. -/
  | any (lineFeed : Bool)
  | set (chars : CharSet)
  | assertion (condition : Assertion)
  | seq (parts : List Extended)
  | alt (choices : List Extended)
  | group (index : Nat) (body : Extended)
  | repetition (low : Nat) (high : Option Nat) (greedy : Bool) (body : Extended)
  /-- Looks at what comes next, or at what came before, without consuming it. -/
  | look (behind negated : Bool) (body : Extended)
  /-- Once matched, the body is not tried another way. -/
  | atomic (body : Extended)
  /-- The text that a group recorded. -/
  | backref (group : Nat)
  /-- Matches without consuming if a group recorded something. -/
  | recorded (group : Nat)
  | conditional (condition yes no : Extended)
  /-- Moves the start of the match to the current position. -/
  | resetStart
  /-- Matches without consuming where the search began. -/
  | searchStart
deriving Repr

namespace Extended

mutual

/-- The least number of characters that a match consumes, as far as the shape tells. -/
def minSize : Extended → Nat
  | empty | assertion _ | look .. | backref _ | recorded _ | resetStart | searchStart => 0
  | literal .. | any _ | set _ => 1
  | seq parts => minSizeSum parts
  | alt choices => (minSizeLeast choices).getD 0
  | group _ body => body.minSize
  | repetition low _ _ body => body.minSize * low
  | atomic body => body.minSize
  | conditional condition yes no => condition.minSize + min yes.minSize no.minSize

def minSizeSum : List Extended → Nat
  | [] => 0
  | part :: rest => part.minSize + minSizeSum rest

def minSizeLeast : List Extended → Option Nat
  | [] => none
  | choice :: rest =>
      match minSizeLeast rest with
      | some least => some (min choice.minSize least)
      | none => some choice.minSize

end

mutual

/-- Whether all matches consume `minSize` characters, as far as the shape tells. -/
def constSize : Extended → Bool
  | empty | assertion _ | look .. | recorded _ | resetStart | searchStart => true
  | backref _ => false
  | literal .. | any _ | set _ => true
  | seq parts => constSizeAll parts
  | alt choices => constSizeAll choices && sameSize choices
  | group _ body => body.constSize
  | repetition low high _ body => body.constSize && high == some low
  | atomic body => body.constSize
  | conditional condition yes no =>
      condition.constSize && yes.constSize && no.constSize &&
        condition.minSize + yes.minSize == no.minSize

def constSizeAll : List Extended → Bool
  | [] => true
  | part :: rest => part.constSize && constSizeAll rest

/-- Whether neighbours have the same least size. -/
def sameSize : List Extended → Bool
  | [] | [_] => true
  | first :: second :: rest => first.minSize == second.minSize && sameSize (second :: rest)

end

mutual

/-- Whether matching needs more than a regular expression; `referenced` are the groups that
back-references name. -/
def needsMachine (referenced : List Nat) : Extended → Bool
  | empty | literal .. | any _ | set _ => false
  | assertion condition => condition.looksAtWords
  | seq parts => anyNeedsMachine referenced parts
  | alt choices => anyNeedsMachine referenced choices
  | group index body => body.needsMachine referenced || referenced.contains index
  | repetition _ _ _ body => body.needsMachine referenced
  | look .. | atomic _ | backref _ | recorded _ | conditional .. | resetStart | searchStart =>
      true

def anyNeedsMachine (referenced : List Nat) : List Extended → Bool
  | [] => false
  | part :: rest => part.needsMachine referenced || anyNeedsMachine referenced rest

end

mutual

/-- The regular expression with the same matches, if there is one of this shape. Bounds that
are out of order or too large have none. -/
def toRegular? : Extended → Option Regular
  | empty => some .empty
  | literal c ignoreCase =>
      let chars := CharSet.singleton c
      some (.set (if ignoreCase then chars.foldCase else chars))
  | any lineFeed => some (.set (if lineFeed then CharSet.all else CharSet.notLineFeed))
  | set chars => some (.set chars)
  | assertion condition => some (.assertion condition)
  | seq parts => (allToRegular? parts).map Regular.concat
  | alt choices => (allToRegular? choices).map Regular.oneOf
  | group index body => body.toRegular?.map (Regular.group index)
  | repetition low high greedy body =>
      let bounded := match high with
        | some high => low ≤ high && high < Nat.pow 2 32
        | none => low < Nat.pow 2 32
      if bounded then body.toRegular?.map (Regular.times low high greedy) else none
  | look .. | atomic _ | backref _ | recorded _ | conditional .. | resetStart | searchStart =>
      none

def allToRegular? : List Extended → Option (List Regular)
  | [] => some []
  | part :: rest =>
      match part.toRegular?, allToRegular? rest with
      | some part, some rest => some (part :: rest)
      | _, _ => none

end

mutual

/-- The number of groups opened after the expression, or nothing if a reference points to the
whole match or to a group that was not opened yet; `opened` counts the groups before, the whole
match included. -/
def openedAfter? (opened : Nat) : Extended → Option Nat
  | empty | literal .. | any _ | set _ | assertion _ | resetStart | searchStart => some opened
  | seq parts => openedAfterAll? opened parts
  | alt choices => openedAfterAll? opened choices
  | group _ body => body.openedAfter? (opened + 1)
  | repetition _ _ _ body => body.openedAfter? opened
  | look _ _ body => body.openedAfter? opened
  | atomic body => body.openedAfter? opened
  | backref index => if 0 < index ∧ index < opened then some opened else none
  | recorded index => if index < opened then some opened else none
  | conditional condition yes no =>
      match condition.openedAfter? opened with
      | some opened =>
          match yes.openedAfter? opened with
          | some opened => no.openedAfter? opened
          | none => none
      | none => none

def openedAfterAll? (opened : Nat) : List Extended → Option Nat
  | [] => some opened
  | part :: rest =>
      match part.openedAfter? opened with
      | some opened => openedAfterAll? opened rest
      | none => none

end

/-- Whether every reference points to a group opened before it. -/
def referencesOpen (expression : Extended) : Bool :=
  (expression.openedAfter? 1).isSome

end Extended

end AgentClassifier.Pattern

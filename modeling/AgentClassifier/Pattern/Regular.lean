import AgentClassifier.Pattern.Assertion

/-!
Regular expressions over characters, with the order of preference among their matches.

* `Regular` : the expressions; `Regular.concat` and `Regular.oneOf` build the normal forms.
* `Regular.reach` : the positions that a match from a given start can end at, best first. Each end
  stands in the list once, with the groups of the best way to it: what follows a part of an
  expression depends on the end of that part alone, so no worse way to the same end can succeed
  where the best one fails.
* `Regular.search?` : the best match at the leftmost start that has one.

A repetition keeps going as long as its body consumes something. Its first iteration may consume
nothing, and then it is the last.
-/

namespace AgentClassifier.Pattern

/-- A regular expression. -/
inductive Regular
  /-- Matches without consuming. -/
  | empty
  /-- Consumes one character of a set. -/
  | set (chars : CharSet)
  /-- Matches without consuming where a condition holds. -/
  | assertion (condition : Assertion)
  /-- Records what its body consumes. -/
  | group (index : Nat) (body : Regular)
  /-- Both parts, one after the other. -/
  | seq (first second : Regular)
  /-- Either part; the first is preferred. -/
  | alt (first second : Regular)
  /-- At least `low` and at most `high` times the body; a greedy one prefers more. -/
  | repetition (low : Nat) (high : Option Nat) (greedy : Bool) (body : Regular)
deriving DecidableEq, Repr

/-- The text between two positions, recorded for a group. -/
structure Span where
  group : Nat
  start : Nat
  stop : Nat
deriving DecidableEq, Repr

/-- A position where a match can end, with the groups recorded on the way, the latest first. -/
structure Reach where
  stop : Nat
  spans : List Span
deriving DecidableEq, Repr

/-! ## Ways through an expression -/

/-- The set of positions `seen`, given by its bits, with one more position. -/
def markSeen (seen position : Nat) : Nat := seen ||| (1 <<< position)

/-- Drops the ends that `seen` holds or that come a second time. -/
def keepNew : List Reach → Nat → List Reach
  | [], _ => []
  | reach :: rest, seen =>
      if seen.testBit reach.stop then keepNew rest seen
      else reach :: keepNew rest (markSeen seen reach.stop)

/-- Keeps the first way to each end. -/
def distinctEnds : List Reach → List Reach
  | [] => []
  | [reach] => [reach]
  | reaches => keepNew reaches 0

/-- The ways through one iteration of a repetition from a position. -/
abbrev Iteration := Nat → List Span → List Reach

/-- Exactly `count` iterations after each of the given ways. -/
def exactly (iteration : Iteration) : Nat → List Reach → List Reach
  | 0, reaches => reaches
  | count + 1, reaches =>
      exactly iteration count
        (distinctEnds (reaches.flatMap fun reach => iteration reach.stop reach.spans))

/-- The ends found so far, the latest first, and the marks of the places already left. -/
structure Explored where
  found : List Reach
  seen : Nat

/-- Adds an end after those already found. -/
def Explored.push (explored : Explored) (reach : Reach) : Explored :=
  ⟨reach :: explored.found, explored.seen⟩

/-- At most `count` further iterations; a place is a position with the iterations left. -/
def atMost (iteration : Iteration) (greedy : Bool) (width : Nat) :
    Nat → Reach → Explored → Explored
  | 0, reach, explored => explored.push reach
  | count + 1, reach, explored =>
      let place := count * width + reach.stop
      if explored.seen.testBit place then explored
      else
        let entered : Explored := ⟨explored.found, markSeen explored.seen place⟩
        let further := fun explored =>
          (iteration reach.stop reach.spans).foldl
            (fun explored next => atMost iteration greedy width count next explored) explored
        if greedy then (further entered).push reach else further (entered.push reach)

/-- Any number of further iterations that consume something. Every iteration moves on, so fuel
for each position of the text suffices. -/
def keepGoing (iteration : Iteration) (greedy : Bool) : Nat → Reach → Explored → Explored
  | 0, _, explored => explored
  | fuel + 1, reach, explored =>
      if explored.seen.testBit reach.stop then explored
      else
        let entered : Explored := ⟨explored.found, markSeen explored.seen reach.stop⟩
        let further := fun explored =>
          (iteration reach.stop reach.spans).foldl
            (fun explored next =>
              if next.stop == reach.stop then explored
              else keepGoing iteration greedy fuel next explored) explored
        if greedy then (further entered).push reach else further (entered.push reach)

/-- One iteration, and any number of further ones if it consumes something. -/
def onceOrMore (iteration : Iteration) (greedy : Bool) (fuel : Nat) (reaches : List Reach) :
    List Reach :=
  let explored := reaches.foldl
    (fun explored reach =>
      (iteration reach.stop reach.spans).foldl
        (fun explored next =>
          if next.stop == reach.stop then explored.push next
          else keepGoing iteration greedy fuel next explored) explored)
    ⟨[], 0⟩
  distinctEnds explored.found.reverse

/-- The ways through a repetition. -/
def repeated (iteration : Iteration) (greedy : Bool) (width : Nat) (low : Nat)
    (high : Option Nat) (here : Reach) : List Reach :=
  match high with
  | some high =>
      let start := exactly iteration low [here]
      if high ≤ low then start
      else
        let explored := start.foldl
          (fun explored reach => atMost iteration greedy width (high - low) reach explored) ⟨[], 0⟩
        distinctEnds explored.found.reverse
  | none =>
      match low with
      | 0 =>
          let more := onceOrMore iteration greedy width [here]
          distinctEnds (if greedy then more ++ [here] else here :: more)
      | atLeast + 1 => onceOrMore iteration greedy width (exactly iteration atLeast [here])

namespace Regular

/-- The ends of the matches that start at a position, best first and each once. -/
def reach (text : Subject) : Regular → Nat → List Span → List Reach
  | empty, position, spans => [⟨position, spans⟩]
  | set chars, position, spans =>
      match text[position]? with
      | some c => if chars.contains c then [⟨position + 1, spans⟩] else []
      | none => []
  | assertion condition, position, spans =>
      if condition.holds text position then [⟨position, spans⟩] else []
  | group index body, position, spans =>
      (body.reach text position spans).map fun inner =>
        ⟨inner.stop, ⟨index, position, inner.stop⟩ :: inner.spans⟩
  | seq first second, position, spans =>
      distinctEnds ((first.reach text position spans).flatMap fun middle =>
        second.reach text middle.stop middle.spans)
  | alt first second, position, spans =>
      distinctEnds (first.reach text position spans ++ second.reach text position spans)
  | repetition low high greedy body, position, spans =>
      repeated (fun position spans => body.reach text position spans) greedy (text.size + 1) low
        high ⟨position, spans⟩

/-- The best match that starts at a position. -/
def matchAt? (expression : Regular) (text : Subject) (position : Nat) : Option Reach :=
  (expression.reach text position []).head?

/-- The best match at the first of `count` starts from `position` on that has one. -/
def searchFrom (expression : Regular) (text : Subject) :
    (count position : Nat) → Option (Nat × Reach)
  | 0, _ => none
  | count + 1, position =>
      match expression.matchAt? text position with
      | some reach => some (position, reach)
      | none => searchFrom expression text count (position + 1)

/-- The best match at the leftmost start that has one. -/
def search? (expression : Regular) (text : Subject) : Option (Nat × Reach) :=
  expression.searchFrom text (text.size + 1) 0

/-! ## Normal forms -/

/-- The parts of a sequence, from left to right. -/
def parts : Regular → List Regular
  | seq first second => first.parts ++ second.parts
  | empty => []
  | expression => [expression]

/-- One expression behind another, as one sequence. -/
def append : Regular → Regular → Regular
  | seq first second, next => seq first (append second next)
  | empty, next => next
  | expression, empty => expression
  | expression, next => seq expression next

/-- A sequence of expressions. -/
def concat (expressions : List Regular) : Regular := expressions.foldr append empty

/-- Whether the expression is a set of one character. -/
def isSingle : Regular → Bool
  | set chars => chars.single?.isSome
  | _ => false

/-- The pieces of a sequence: single characters next to each other make up one piece, and every
other part is a piece of its own. -/
def pieces (expression : Regular) : List (List Regular) :=
  expression.parts.splitBy fun part next => part.isSingle && next.isSingle

/-- The alternatives, best first. -/
def alternatives : Regular → List Regular
  | alt first second => first.alternatives ++ second.alternatives
  | expression => [expression]

/-- The choice among the alternatives. -/
def ofAlternatives : List Regular → Regular
  | [] => set CharSet.empty
  | [choice] => choice
  | choice :: rest => alt choice (ofAlternatives rest)

/-- The union of the expressions if each is a set of characters. -/
def unionOfSets? : List Regular → Option CharSet
  | [] => some CharSet.empty
  | set chars :: rest => (unionOfSets? rest).map chars.union
  | _ :: _ => none

/-- The set that several alternatives come to. Single characters are joined, and so are other sets;
a choice with both of them stays as it is. -/
def joinedSet? (choices : List Regular) : Option CharSet :=
  if choices.all isSingle || choices.all fun choice => !choice.isSingle then unionOfSets? choices
  else none

/-- The choice among alternatives that do not begin alike. -/
def choose : List Regular → Regular
  | [choice] => choice
  | choices =>
      match joinedSet? choices with
      | some chars => set chars
      | none => ofAlternatives choices

/-- The pieces that both sequences begin with. -/
def sharedStart : List (List Regular) → List (List Regular) → List (List Regular)
  | piece :: rest, other :: others =>
      if piece = other then piece :: sharedStart rest others else []
  | _, _ => []

/-- The pieces that all of several alternatives begin with, if each is a sequence of more than one
piece. -/
def commonStart (choices : List Regular) : List (List Regular) :=
  if choices.all fun choice => 1 < choice.pieces.length then
    match choices with
    | first :: second :: others =>
        (second :: others).foldl (fun start choice => sharedStart start choice.pieces) first.pieces
    | _ => []
  else []

/-- A choice among expressions. What all alternatives begin with comes once, in front; what is left
of them behind it no longer begins alike. -/
def oneOf (expressions : List Regular) : Regular :=
  let choices := expressions.flatMap alternatives
  match commonStart choices with
  | [] => choose choices
  | start =>
      let left := choices.map fun choice => concat (choice.pieces.drop start.length).flatten
      concat (start.flatten ++ [choose (left.flatMap alternatives)])

/-- Whether the expression consumes nothing, whatever it matches. -/
def consumesNothing : Regular → Bool
  | empty | assertion _ => true
  | set _ => false
  | group _ body => body.consumesNothing
  | seq first second => first.consumesNothing && second.consumesNothing
  | alt first second => first.consumesNothing && second.consumesNothing
  | repetition _ high _ body => high == some 0 || body.consumesNothing

/-- A repetition; of a body that consumes nothing, one iteration is as good as many. -/
def times (low : Nat) (high : Option Nat) (greedy : Bool) (body : Regular) : Regular :=
  let idle := body.consumesNothing
  let low := if idle then min low 1 else low
  let high := if idle then some (min (high.getD 1) 1) else high
  if low = 0 ∧ high = some 0 then empty
  else if low = 1 ∧ high = some 1 then body
  else repetition low high greedy body

/-! ## Groups and size -/

/-- The indices of the groups in the expression, in order of their opening. -/
def groups : Regular → List Nat
  | empty | set _ | assertion _ => []
  | group index body => index :: body.groups
  | seq first second => first.groups ++ second.groups
  | alt first second => first.groups ++ second.groups
  | repetition _ _ _ body => body.groups

/-- An estimate of the bytes that the unrolled expression takes. -/
def estimatedBytes : Regular → Nat
  | empty => 32
  | set chars => 32 + chars.ranges.length * (if chars.isAscii then 8 else 64)
  | assertion _ => 32
  | group _ body => 64 + body.estimatedBytes
  | seq first second => first.estimatedBytes + second.estimatedBytes
  | alt first second => 32 + first.estimatedBytes + second.estimatedBytes
  | repetition low high _ body => 32 + max 1 (max low (high.getD 0)) * body.estimatedBytes

/-- Whether the expression seems to fit into ten mebibytes. -/
def seemsSmall (expression : Regular) : Bool := expression.estimatedBytes ≤ 10 * 1024 * 1024

end Regular

end AgentClassifier.Pattern

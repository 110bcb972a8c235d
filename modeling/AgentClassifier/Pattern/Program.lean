import AgentClassifier.Pattern.Extended

/-!
Programs for a backtracking machine, and their assembly from extended expressions.

* `Instruction` : the instructions.
* `Extended.assemble` : the instructions for a part of an expression.
* `Extended.program?` : the program that searches a text.

A regular expression is only compiled where `admits` holds of it, which says that it is small
enough.

What a regular expression can match is left to one instruction, `run`, which takes the best match
and never another one. A part is handed over that way where nothing is lost: where the size of
its matches does not vary, or where its `exact` flag is off, which says that the part after it
need not be tried with its other matches.
-/

namespace AgentClassifier.Pattern

/-- An instruction; targets are indices in the program and slots indices in the machine's memory.
The slots `2 * g` and `2 * g + 1` hold the start and the end of what group `g` recorded. -/
inductive Instruction
  /-- The whole pattern has matched. -/
  | finish
  /-- Consumes any character. -/
  | anyChar
  /-- Consumes any character but a line feed. -/
  | anyButLineFeed
  /-- Consumes the given characters. -/
  | text (chars : List Char)
  /-- Goes on where the condition holds. -/
  | check (condition : Assertion)
  /-- Goes on at the first target; the second is tried later. -/
  | split (first second : Nat)
  | jump (target : Nat)
  /-- Stores the position. -/
  | save (slot : Nat)
  /-- Stores zero. -/
  | zero (slot : Nat)
  /-- Returns to a stored position. -/
  | restore (slot : Nat)
  /-- Counts the iterations of a body that starts at the next instruction and jumps back here. -/
  | iterate (low : Nat) (high : Option Nat) (greedy : Bool) (next slot : Nat)
  /-- Counts the iterations of a body that may consume nothing; `check` stores where the latest
  optional iteration began. -/
  | iterateIdle (low : Nat) (greedy : Bool) (next slot check : Nat)
  /-- Goes back by a number of characters. -/
  | goBack (count : Nat)
  /-- The body of a negative look-around has matched: gives up what was put off since its start,
  and fails. -/
  | refuse
  /-- Consumes what a group recorded. -/
  | backref (group : Nat)
  /-- Goes on if a group recorded something. -/
  | recorded (group : Nat)
  /-- Opens a stretch that is not tried another way once it has matched. -/
  | beginAtomic
  /-- Closes the stretch opened last and drops what was put off in it. -/
  | endAtomic
  /-- Consumes the best match of a regular expression, which records the given groups. -/
  | run (expression : Regular) (groups : List Nat)
  /-- Goes on where the search began. -/
  | searchStart
deriving Repr

/-- Assembled instructions and the first slot that is still free. -/
structure Assembled where
  code : List Instruction
  nextSlot : Nat

namespace Extended

/-- The characters of an expression that is a plain text. -/
def plainText? : Extended → Option (List Char)
  | literal c false => some [c]
  | seq parts => plainTexts? parts
  | _ => none
where
  plainTexts? : List Extended → Option (List Char)
    | [] => some []
    | part :: rest =>
        match plainText? part, plainTexts? rest with
        | some text, some texts => some (text ++ texts)
        | _, _ => none

variable (admits : Regular → Bool)

/-- One instruction for a sequence of parts that regular expressions can match. -/
def handOver? (parts : List Extended) : Option (List Instruction) :=
  match parts with
  | [] => some []
  | parts =>
      match plainText?.plainTexts? parts with
      | some text => some [.text text]
      | none =>
          match allToRegular? parts with
          | some expressions =>
              let expression := Regular.concat expressions
              if admits expression then some [.run expression expression.groups] else none
          | none => none

/-- Whether a part may be handed over wherever it stands. -/
def settled (referenced : List Nat) (part : Extended) : Bool :=
  part.constSize && !part.needsMachine referenced

/-- The number of parts at the end of a sequence that are handed over together. -/
def tailLength (referenced : List Nat) (exact : Bool) (parts : List Extended) : Nat :=
  (parts.reverse.takeWhile fun part =>
    if exact then part.settled referenced else !part.needsMachine referenced).length

/-- A body behind instructions that store the position and return to it. -/
def lookPositive (slot : Nat) (body : List Instruction) : List Instruction :=
  .save slot :: (body ++ [.restore slot])

/-- A body whose match is a failure. -/
def lookNegative (pc : Nat) (body : List Instruction) : List Instruction :=
  .split (pc + 1) (pc + body.length + 2) :: (body ++ [.refuse])

mutual

/-- The instructions for an expression from index `pc` on. With `exact` set, all its matches
are tried. -/
def assemble (referenced : List Nat) :
    Extended → (exact : Bool) → (pc slot : Nat) → Option Assembled
  | expression, exact, pc, slot =>
      if !exact && !expression.needsMachine referenced then
        (handOver? admits [expression]).map (⟨·, slot⟩)
      else match expression with
      | empty => some ⟨[], slot⟩
      | literal .. | set _ => (handOver? admits [expression]).map (⟨·, slot⟩)
      | any lineFeed => some ⟨[if lineFeed then .anyChar else .anyButLineFeed], slot⟩
      | assertion condition => some ⟨[.check condition], slot⟩
      | backref index => some ⟨[.backref index], slot⟩
      | recorded index => some ⟨[.recorded index], slot⟩
      | resetStart => some ⟨[.save 0], slot⟩
      | searchStart => some ⟨[.searchStart], slot⟩
      | seq parts => do
          let head := (parts.takeWhile fun part => part.settled referenced).length
          let middle := parts.length - head -
            tailLength referenced exact (parts.drop head)
          let first ← handOver? admits (parts.take head)
          let inner ← assembleSome referenced parts head middle (pc + first.length) slot
          let last ← handOver? admits (parts.drop (head + middle))
          some ⟨first ++ inner.code ++ last, inner.nextSlot⟩
      | alt choices => assembleChoice referenced choices exact pc slot
      | group index body => do
          let inner ← assemble referenced body exact (pc + 1) slot
          some ⟨.save (2 * index) :: (inner.code ++ [.save (2 * index + 1)]), inner.nextSlot⟩
      | repetition low high greedy body =>
          let thorough := exact || body.needsMachine referenced
          if low = 0 ∧ high = some 1 then do
            let inner ← assemble referenced body exact (pc + 1) slot
            let after := pc + 1 + inner.code.length
            let fork : Instruction :=
              if greedy then .split (pc + 1) after else .split after (pc + 1)
            some ⟨fork :: inner.code, inner.nextSlot⟩
          else if high = none ∧ body.minSize = 0 then do
            let inner ← assemble referenced body thorough (pc + 2) (slot + 2)
            let after := pc + 3 + inner.code.length
            some ⟨[.zero slot, .iterateIdle low greedy after slot (slot + 1)] ++ inner.code ++
              [.jump (pc + 1)], inner.nextSlot⟩
          else if low = 0 ∧ high = none then do
            let inner ← assemble referenced body thorough (pc + 1) slot
            let after := pc + 2 + inner.code.length
            let fork : Instruction :=
              if greedy then .split (pc + 1) after else .split after (pc + 1)
            some ⟨fork :: (inner.code ++ [.jump pc]), inner.nextSlot⟩
          else if low = 1 ∧ high = none then do
            let inner ← assemble referenced body thorough pc slot
            let after := pc + inner.code.length + 1
            let fork : Instruction := if greedy then .split pc after else .split after pc
            some ⟨inner.code ++ [fork], inner.nextSlot⟩
          else do
            let inner ← assemble referenced body thorough (pc + 2) (slot + 1)
            let after := pc + 3 + inner.code.length
            some ⟨[.zero slot, .iterate low high greedy after slot] ++ inner.code ++
              [.jump (pc + 1)], inner.nextSlot⟩
      | look true negated (alt choices) =>
          if constSize (alt choices) then do
            let inner ← if anyNeedsMachine referenced choices then
                assembleChoice referenced choices false (pc + 2) (slot + 1)
              else (handOver? admits [alt choices]).map (⟨·, slot + 1⟩)
            let body := Instruction.goBack (minSize (alt choices)) :: inner.code
            some ⟨if negated then lookNegative pc body else lookPositive slot body,
              inner.nextSlot⟩
          else if negated then assembleNoneBefore referenced choices pc slot
          else assembleSomeBefore referenced choices pc slot
      | look behind negated body => do
          let back : List Instruction := if behind then [.goBack body.minSize] else []
          if behind && !body.constSize then
            none
          let inner ← assemble referenced body false (pc + 1 + back.length) (slot + 1)
          let body := back ++ inner.code
          some ⟨if negated then lookNegative pc body else lookPositive slot body,
            inner.nextSlot⟩
      | atomic body => do
          let inner ← assemble referenced body false (pc + 1) slot
          some ⟨.beginAtomic :: (inner.code ++ [.endAtomic]), inner.nextSlot⟩
      | conditional condition yes no => do
          let asked ← assemble referenced condition exact (pc + 2) slot
          let yesStart := pc + 3 + asked.code.length
          let yes ← assemble referenced yes exact yesStart asked.nextSlot
          let noStart := yesStart + yes.code.length + 1
          let no ← assemble referenced no exact noStart yes.nextSlot
          some ⟨[.beginAtomic, .split (pc + 2) noStart] ++ asked.code ++ [.endAtomic] ++
            yes.code ++ [.jump (noStart + no.code.length)] ++ no.code, no.nextSlot⟩

/-- The instructions for `count` parts of a sequence after the first `skip` ones, in full. -/
def assembleSome (referenced : List Nat) :
    List Extended → (skip count pc slot : Nat) → Option Assembled
  | [], _, _, _, slot => some ⟨[], slot⟩
  | _ :: rest, skip + 1, count, pc, slot => assembleSome referenced rest skip count pc slot
  | _ :: _, 0, 0, _, slot => some ⟨[], slot⟩
  | part :: rest, 0, count + 1, pc, slot => do
      let first ← assemble referenced part true pc slot
      let others ← assembleSome referenced rest 0 count (pc + first.code.length) first.nextSlot
      some ⟨first.code ++ others.code, others.nextSlot⟩

/-- The instructions that try each choice in turn. -/
def assembleChoice (referenced : List Nat) :
    List Extended → (exact : Bool) → (pc slot : Nat) → Option Assembled
  | [], _, _, slot => some ⟨[], slot⟩
  | [last], exact, pc, slot => assemble referenced last exact pc slot
  | choice :: rest, exact, pc, slot => do
      let first ← assemble referenced choice exact (pc + 1) slot
      let restStart := pc + 2 + first.code.length
      let others ← assembleChoice referenced rest exact restStart first.nextSlot
      some ⟨.split (pc + 1) restStart ::
        (first.code ++ [.jump (restStart + others.code.length)] ++ others.code), others.nextSlot⟩

/-- The instructions that look for one of the choices before the position. -/
def assembleSomeBefore (referenced : List Nat) :
    List Extended → (pc slot : Nat) → Option Assembled
  | [], _, slot => some ⟨[], slot⟩
  | [last], pc, slot =>
      if last.constSize then do
        let inner ← assemble referenced last false (pc + 2) (slot + 1)
        some ⟨lookPositive slot (.goBack last.minSize :: inner.code), inner.nextSlot⟩
      else none
  | choice :: rest, pc, slot =>
      if choice.constSize then do
        let inner ← assemble referenced choice false (pc + 3) (slot + 1)
        let first := lookPositive slot (.goBack choice.minSize :: inner.code)
        let restStart := pc + 2 + first.length
        let others ← assembleSomeBefore referenced rest restStart inner.nextSlot
        some ⟨.split (pc + 1) restStart ::
          (first ++ [.jump (restStart + others.code.length)] ++ others.code), others.nextSlot⟩
      else none

/-- The instructions that refuse every choice before the position. -/
def assembleNoneBefore (referenced : List Nat) :
    List Extended → (pc slot : Nat) → Option Assembled
  | [], _, slot => some ⟨[], slot⟩
  | choice :: rest, pc, slot =>
      if choice.constSize then do
        let inner ← assemble referenced choice false (pc + 2) slot
        let first := lookNegative pc (.goBack choice.minSize :: inner.code)
        let others ← assembleNoneBefore referenced rest (pc + first.length) inner.nextSlot
        some ⟨first ++ others.code, others.nextSlot⟩
      else none

end

/-- The program that searches a text for the expression: it tries each position in turn. `groups`
counts the groups, the whole match included. -/
def program? (expression : Extended) (referenced : List Nat) (groups : Nat) :
    Option (Array Instruction) := do
  let body ← assemble admits referenced expression true 4 (2 * groups)
  let start : List Instruction := [.split 3 1, .anyChar, .jump 0, .save 0]
  let close : List Instruction := [.save 1, .finish]
  some (start ++ body.code ++ close).toArray

end Extended

end AgentClassifier.Pattern

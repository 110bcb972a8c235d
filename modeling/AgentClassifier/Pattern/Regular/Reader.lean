import AgentClassifier.Pattern.CharClass
import AgentClassifier.Pattern.Regular

/-!
Regular notation: the expressions without look-around, back-references and the like.

* `Regular.read?` : the expression that a pattern in regular notation stands for, if it is one.

A repetition applies to whatever stands before it, another repetition included, and a brace that
opens no repetition is an error. Switches set inside a group end with the group.
-/

namespace AgentClassifier.Pattern

/-- The largest number of iterations that a pattern may ask for. -/
def maxIterations : Nat := Nat.pow 2 32 - 1

def decimalValue (digits : List Char) : Nat :=
  digits.foldl (fun total c => total * 10 + (c.toNat - '0'.toNat)) 0

/-- The switches named between `(?` and the closing sign, and whether that sign is a colon. -/
structure SwitchList where
  mode : Mode
  opensGroup : Bool
  rest : List Char

/-- Sets the switch of a letter. -/
def Mode.set? (mode : Mode) (value : Bool) : Char → Option Mode
  | 'i' => some { mode with ignoreCase := value }
  | 'm' => some { mode with multiLine := value }
  | 's' => some { mode with dotAll := value }
  | 'U' => some { mode with swapGreed := value }
  | 'x' => some { mode with spaced := value }
  | 'u' => if value then some mode else none
  | _ => none

/-- Reads switches. No letter may come twice, at most one hyphen may come, and a letter must
follow it. `used` holds the letters so far, `value` is what they are set to, and `last` is the
sign before. -/
def readSwitches (mode : Mode) (value : Bool) (used : List Char) (last : Char) :
    List Char → Option SwitchList
  | [] => none
  | c :: rest =>
      if c = ')' then
        if last = '-' || used.isEmpty then none else some ⟨mode, false, rest⟩
      else if c = ':' then
        if last = '-' then none else some ⟨mode, true, rest⟩
      else if c = '-' then
        if value then readSwitches mode false used '-' rest else none
      else if used.contains c then none
      else
        match mode.set? value c with
        | some mode => readSwitches mode value (c :: used) c rest
        | none => none

/-- Reads a decimal number with blanks around it. -/
def readCount (mode : Mode) (text : List Char) : Option (Nat × List Char) :=
  let text := text.dropWhile CharSet.spaces.contains
  let digits := text.takeWhile isAsciiDigit
  let rest := (mode.skip (text.dropWhile isAsciiDigit)).dropWhile CharSet.spaces.contains
  if digits.isEmpty ∨ maxIterations < decimalValue digits then none
  else some (decimalValue digits, rest)

/-- The bounds of a counted repetition; `text` is what follows the opening brace. -/
def readBounds (mode : Mode) (text : List Char) : Option (Nat × Option Nat × List Char) := do
  let (low, text) ← readCount mode (mode.skip text)
  match text with
  | '\x7d' :: rest => some (low, some low, rest)
  | ',' :: text =>
      match mode.skip text with
      | '\x7d' :: rest => some (low, none, rest)
      | text =>
          let (high, text) ← readCount mode text
          match text with
          | '\x7d' :: rest => if low ≤ high then some (low, some high, rest) else none
          | _ => none
  | _ => none

/-- A name of a group, up to its closing angle bracket. -/
def readGroupName (text : List Char) : Option (List Char × List Char) := do
  let (name, rest) ← splitAtFirst? ['>'] text
  match name with
  | [] => none
  | first :: others =>
      let opens := first == '_' || (CharSet.isAlphanumeric first && !isAsciiDigit first)
      let continues := others.all fun c => "_.[]".toList.contains c || CharSet.isAlphanumeric c
      if opens && continues then some (name, rest) else none

/-- The names and the number of the groups opened so far. -/
structure GroupCount where
  names : List (List Char)
  count : Nat

/-- The choice read so far: its finished branches and the pieces of the current one, both with
the latest first, and whether a repetition may apply to the latest piece. -/
structure Choice where
  branches : List Regular
  pieces : List Regular
  repeatable : Bool

/-- The choice before anything is read. -/
def Choice.start : Choice := ⟨[], [], false⟩

def Choice.add (choice : Choice) (piece : Regular) : Choice :=
  { choice with pieces := piece :: choice.pieces, repeatable := true }

/-- Ends the current branch. -/
def Choice.next (choice : Choice) : Choice :=
  ⟨Regular.concat choice.pieces.reverse :: choice.branches, [], false⟩

/-- The whole choice as an expression. -/
def Choice.finish (choice : Choice) : Regular :=
  match choice.next.branches with
  | [branch] => branch
  | branches => Regular.oneOf branches.reverse

/-- Repeats the latest piece, lazily if a question mark follows. -/
def Choice.iterate (choice : Choice) (mode : Mode) (low : Nat) (high : Option Nat)
    (text : List Char) : Option (Choice × List Char) :=
  match choice.pieces with
  | [] => none
  | piece :: others =>
      if !choice.repeatable then none
      else
        let (lazily, text) := match text with
          | '?' :: rest => (true, rest)
          | text => (false, text)
        let piece := Regular.times low high (lazily == mode.swapGreed) piece
        some ({ choice with pieces := piece :: others }, text)

/-- Reads a choice up to the end of the text or an unmatched closing parenthesis. -/
def readChoice : Nat → Mode → GroupCount → Choice → List Char →
    Option (Regular × GroupCount × List Char)
  | 0, _, _, _, _ => none
  | fuel + 1, mode, groups, choice, text =>
      let onward := readChoice fuel mode groups
      let iterate := fun low high text =>
        match choice.iterate mode low high text with
        | some (choice, text) => onward choice text
        | none => none
      let enclose := fun groups mode build text =>
        match readChoice fuel mode groups Choice.start text with
        | some (body, groups, ')' :: rest) =>
            readChoice fuel mode groups (choice.add (build body)) rest
        | _ => none
      match mode.skip text with
      | [] => some (choice.finish, groups, [])
      | ')' :: rest => some (choice.finish, groups, ')' :: rest)
      | '|' :: rest => onward choice.next rest
      | '[' :: rest =>
          match readClass mode rest with
          | some (chars, rest) => onward (choice.add (.set chars)) rest
          | none => none
      | '*' :: rest => iterate 0 none rest
      | '+' :: rest => iterate 1 none rest
      | '?' :: rest => iterate 0 (some 1) rest
      | '{' :: rest =>
          match readBounds mode rest with
          | some (low, high, rest) => iterate low high (mode.skip rest)
          | none => none
      | '.' :: rest =>
          let chars := if mode.dotAll then CharSet.all else CharSet.notLineFeed
          onward (choice.add (.set chars)) rest
      | '^' :: rest =>
          onward (choice.add (.assertion (if mode.multiLine then .startLine else .startText))) rest
      | '$' :: rest =>
          onward (choice.add (.assertion (if mode.multiLine then .endLine else .endText))) rest
      | '\\' :: rest =>
          match readEscape mode rest with
          | some (.literal c, rest) => onward (choice.add (.set (mode.charSet c))) rest
          | some (.chars chars, rest) => onward (choice.add (.set chars)) rest
          | some (.assertion condition, rest) => onward (choice.add (.assertion condition)) rest
          | none => none
      | '(' :: rest =>
          let named := fun rest =>
            match readGroupName rest with
            | some (name, rest) =>
                if groups.names.contains name then none
                else
                  enclose ⟨name :: groups.names, groups.count + 1⟩ mode
                    (Regular.group (groups.count + 1)) rest
            | none => none
          match mode.skip rest with
          | '?' :: '=' :: _ | '?' :: '!' :: _ | '?' :: '<' :: '=' :: _ | '?' :: '<' :: '!' :: _ =>
              none
          | '?' :: 'P' :: '<' :: rest => named rest
          | '?' :: '<' :: rest => named rest
          | '?' :: rest =>
              match readSwitches mode true [] '?' rest with
              | some ⟨inside, true, rest⟩ =>
                  match readChoice fuel inside groups Choice.start rest with
                  | some (body, groups, ')' :: rest) =>
                      readChoice fuel mode groups (choice.add body) rest
                  | _ => none
              | some ⟨changed, false, rest⟩ =>
                  readChoice fuel changed groups { choice with repeatable := false } rest
              | none => none
          | rest =>
              enclose ⟨groups.names, groups.count + 1⟩ mode (Regular.group (groups.count + 1)) rest
      | c :: rest => onward (choice.add (.set (mode.charSet c))) rest

namespace Regular

/-- The expression that a text in regular notation stands for. -/
def read? (ignoreCase : Bool) (pattern : List Char) : Option Regular :=
  let mode := { Mode.initial with ignoreCase }
  match readChoice (pattern.length + 1) mode ⟨[], 0⟩ Choice.start pattern with
  | some (expression, _, []) => some expression
  | _ => none

end Regular

end AgentClassifier.Pattern

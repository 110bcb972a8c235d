import AgentClassifier.Pattern.Extended
import AgentClassifier.Pattern.Regular.Reader

/-!
Extended notation.

* `Extended.read?` : the expression that a pattern stands for, with the groups that numbered and
  named back-references use.

A piece of a pattern takes one repetition, with a question mark for the lazy and a plus sign for
the possessive kind. A brace that opens no repetition stands for itself. Switches stay in force
until the group `(?flags:…)` ends that set them, and past the end of every other group.
-/

namespace AgentClassifier.Pattern

/-- What reading has learnt so far, and the text that is left. -/
structure Reading where
  mode : Mode
  /-- The named groups, the latest first. -/
  names : List (List Char × Nat)
  /-- The number of groups opened. -/
  groups : Nat
  /-- Whether a reference by number occurred. -/
  numbered : Bool
  /-- The groups that back-references name. -/
  referenced : List Nat
  rest : List Char

/-- The deepest nesting of groups. -/
def maxDepth : Nat := 64

/-- A reading step: it may fail. -/
abbrev Reads := StateT Reading Option

namespace Reads

/-- Fails. -/
def fail {α : Type} : Reads α := fun _ => none

def setRest (rest : List Char) : Reads Unit := modify fun reading => { reading with rest }

/-- Runs a step on the text that is left which leaves the rest of it. -/
def take {α : Type} (step : Mode → List Char → Option (α × List Char)) : Reads α := fun reading =>
  match step reading.mode reading.rest with
  | some (value, rest) => some (value, { reading with rest })
  | none => none

end Reads

/-! ## Blanks and comments -/

/-- Where a reader stands between two pieces: outside comments, in a comment line, in a comment in
parentheses, or after a backslash in one. -/
inductive Filler
  | outside
  | line
  | comment
  | escaped

/-- Skips comments in parentheses and, in spaced mode, blanks and comment lines. A comment in
parentheses has to be closed. -/
def skipFiller (spaced : Bool) : Filler → List Char → Option (List Char)
  | .outside, '(' :: '?' :: '#' :: rest => skipFiller spaced .comment rest
  | .outside, c :: rest =>
      if spaced && (c == ' ' || c == '\t' || c == '\n' || c == '\r') then
        skipFiller spaced .outside rest
      else if spaced && c == '#' then skipFiller spaced .line rest
      else some (c :: rest)
  | .outside, [] => some []
  | .line, c :: rest => skipFiller spaced (if c = '\n' then .outside else .line) rest
  | .line, [] => some []
  | .comment, c :: rest =>
      skipFiller spaced (if c = ')' then .outside else if c = '\\' then .escaped else .comment) rest
  | .comment, [] => none
  | .escaped, _ :: rest => skipFiller spaced .comment rest
  | .escaped, [] => none

/-- Skips what stands between pieces. -/
def Mode.skipFiller? (mode : Mode) (text : List Char) : Option (List Char) :=
  skipFiller mode.spaced .outside text

/-- Skips what stands between pieces. -/
def Reads.skip : Reads Unit := fun reading =>
  match reading.mode.skipFiller? reading.rest with
  | some rest => some ((), { reading with rest })
  | none => none

/-! ## References -/

def isNameChar (c : Char) : Bool := c == '_' || CharSet.isAlphanumeric c

/-- The name of a group up to a closing sign; where `relative` is set it may also be a hyphen with
digits. -/
def readName (relative : Bool) (close : Char) (text : List Char) :
    Option (List Char × List Char) :=
  let (sign, body, inName) := match relative, text with
    | true, '-' :: body => (['-'], body, isAsciiDigit)
    | _, _ => ([], text, isNameChar)
  let name := sign ++ body.takeWhile inName
  match body.dropWhile inName with
  | c :: rest => if c = close ∧ !name.isEmpty then some (name, rest) else none
  | [] => none

/-- The group that a name stands for: a named group, the number of a group, or the number of
groups to count back from the latest one. -/
def Reading.groupOf? (reading : Reading) (name : List Char) : Option Nat :=
  match reading.names.find? fun entry => entry.1 == name with
  | some entry => some entry.2
  | none =>
      let isNumber := fun (digits : List Char) => !digits.isEmpty && digits.all isAsciiDigit
      match name with
      | '-' :: digits =>
          if !isNumber digits then none
          else if decimalValue digits = 0 then some 0
          else if decimalValue digits ≤ reading.groups + 1 then
            some (reading.groups + 1 - decimalValue digits)
          else none
      | digits =>
          if isNumber digits && decimalValue digits < Nat.pow 2 63 then some (decimalValue digits)
          else none

/-- A reference by name up to a closing sign. -/
def readNamedReference (relative : Bool) (close : Char) : Reads Nat := do
  let name ← Reads.take fun _ text => readName relative close text
  match (← get).groupOf? name with
  | some group => pure group
  | none => Reads.fail

/-- A reference by number. The number has to stay below half the size of the pattern in bytes. -/
def readNumberedReference (bytes : Nat) : Reads Nat := do
  let reading ← get
  let digits := reading.rest.takeWhile isAsciiDigit
  let group := decimalValue digits
  if digits.isEmpty ∨ bytes / 2 ≤ group then Reads.fail
  else
    set { reading with numbered := true, rest := reading.rest.dropWhile isAsciiDigit }
    pure group

/-! ## Escapes and classes -/

/-- A code of at most eight hexadecimal digits in braces, or of a given number of digits. -/
def readCode (digits : Nat) (text : List Char) : Option (Char × List Char) := do
  let code := text.take digits
  let (code, rest) ←
    if code.length = digits ∧ code.all fun c => (CharSet.hexDigit? c).isSome then
      some (code, text.drop digits)
    else match text with
      | '{' :: inner => do
          let (code, rest) ← untilBrace? inner
          if code.isEmpty ∨ 8 < code.length then none else some (code, rest)
      | _ => none
  let c ← charOfCode? (← hexValue? code)
  some (c, rest)

/-- What follows the letter of a property escape: one character, or a name in braces. -/
def readPropertyText : List Char → Option (List Char × List Char)
  | [] => none
  | '{' :: inner => (untilBrace? inner).map fun (name, rest) =>
      ('\x7b' :: (name ++ ['\x7d']), rest)
  | c :: rest => some ([c], rest)

/-- The character that an escaped one stands for in any position. -/
def escapedChar? (inClass : Bool) (c : Char) : Option Char :=
  match c with
  | 'a' => some '\x07'
  | 'e' => some '\x1b'
  | 'f' => some '\x0c'
  | 'n' => some '\n'
  | 'r' => some '\r'
  | 't' => some '\t'
  | 'v' => some '\x0b'
  | 'b' => if inClass then some '\x08' else none
  | c =>
      if !isAsciiLetter c then some c
      else if inClass && ['k', 'A', 'z', 'B', 'K', 'G'].contains c then some c
      else none

/-- A class is first written in regular notation, where a character that was escaped stands as
its code and cannot act as a sign. -/
def codeText (c : Char) : List Char :=
  ['\\', 'x', '\x7b'] ++ Nat.toDigits 16 c.toNat ++ ['\x7d']

def hexClassText (negated : Bool) : List Char :=
  (if negated then "[^0-9A-Fa-f]" else "[0-9A-Fa-f]").toList

/-- The regular notation of an escape in a class. -/
def escapeInClass (text : List Char) : Option (List Char × List Char) :=
  match text with
  | [] => none
  | c :: rest =>
      if isAsciiDigit c then none
      else if "dDsSwW".toList.contains c then some (['\\', c], rest)
      else if c = 'h' ∨ c = 'H' then some (hexClassText (c == 'H'), rest)
      else if c = 'x' then (readCode 2 rest).map fun (c, rest) => (codeText c, rest)
      else if c = 'u' then (readCode 4 rest).map fun (c, rest) => (codeText c, rest)
      else if c = 'U' then (readCode 8 rest).map fun (c, rest) => (codeText c, rest)
      else if c = 'p' ∨ c = 'P' then
        (readPropertyText rest).map fun (name, rest) => ('\\' :: c :: name, rest)
      else (escapedChar? true c).map fun c => (codeText c, rest)

/-- The rest of a class in regular notation, up to the bracket that closes it. Brackets nest;
`depth` counts the open ones, and `written` holds what was written so far, reversed. -/
def classText : Nat → Nat → List Char → List Char → Option (List Char × List Char)
  | 0, _, _, _ => none
  | fuel + 1, depth, written, text =>
      match text with
      | [] => none
      | '\\' :: rest =>
          match escapeInClass rest with
          | some (piece, rest) => classText fuel depth (piece.reverse ++ written) rest
          | none => none
      | '[' :: rest => classText fuel (depth + 1) ('[' :: written) rest
      | ']' :: rest =>
          if depth ≤ 1 then some ((']' :: written).reverse, rest)
          else classText fuel (depth - 1) (']' :: written) rest
      | c :: rest => classText fuel depth (c :: written) rest

/-- A bracketed class; `text` is what follows its opening bracket. A closing bracket at the very
start stands for itself. -/
def readExtendedClass (mode : Mode) (text : List Char) : Option (CharSet × List Char) := do
  let (opening, text) := match text with
    | '^' :: rest => (['^'], rest)
    | text => ([], text)
  let (opening, text) := match text with
    | ']' :: rest => (opening ++ codeText ']', rest)
    | text => (opening, text)
  let (inside, rest) ← classText (text.length + 1) 1 opening.reverse text
  match readClass { Mode.initial with ignoreCase := mode.ignoreCase } inside with
  | some (chars, []) => some (chars, rest)
  | _ => none

/-- What an escape outside classes stands for; `bytes` is the size of the pattern. -/
def readExtendedEscape (bytes : Nat) : Reads Extended := do
  let reading ← get
  let mode := reading.mode
  match reading.rest with
  | [] => Reads.fail
  | c :: rest =>
      let plain := { Mode.initial with ignoreCase := mode.ignoreCase }
      let advance := fun (expression : Extended) => do
        Reads.setRest rest
        pure expression
      let code := fun digits => do
        let c ← Reads.take fun _ text => readCode digits (text.drop 1)
        pure (Extended.literal c mode.ignoreCase)
      if isAsciiDigit c then
        return .backref (← readNumberedReference bytes)
      match c with
      | 'k' =>
          match rest with
          | '\'' :: rest => do
              Reads.setRest rest
              return .backref (← readNamedReference true '\'')
          | '<' :: rest => do
              Reads.setRest rest
              return .backref (← readNamedReference true '>')
          | _ => Reads.fail
      | 'A' => advance (.assertion .startText)
      | 'z' => advance (.assertion .endText)
      | 'b' => if rest.head? = some '{' then Reads.fail else advance (.assertion .wordBoundary)
      | 'B' => if rest.head? = some '{' then Reads.fail else advance (.assertion .notWordBoundary)
      | '<' => advance (.assertion .wordStart)
      | '>' => advance (.assertion .wordEnd)
      | 'K' => advance .resetStart
      | 'G' => advance .searchStart
      | 'x' => code 2
      | 'u' => code 4
      | 'U' => code 8
      | 'h' => advance (.set ((CharSet.asciiClass? "xdigit".toList).getD CharSet.empty))
      | 'H' => advance (.set ((CharSet.asciiClass? "xdigit".toList).getD CharSet.empty).compl)
      | c =>
          if "dDsSwWpP".toList.contains c then
            match readEscape plain reading.rest with
            | some (.chars chars, rest) => do
                Reads.setRest rest
                pure (.set chars)
            | _ => Reads.fail
          else
            match escapedChar? false c with
            | some c => advance (.literal c false)
            | none => Reads.fail

/-! ## Repetitions -/

/-- A decimal number that fits into sixty-four bits. -/
def readDecimal (text : List Char) : Option (Nat × List Char) :=
  let digits := text.takeWhile isAsciiDigit
  if digits.isEmpty ∨ Nat.pow 2 64 ≤ decimalValue digits then none
  else some (decimalValue digits, text.dropWhile isAsciiDigit)

/-- The bounds of a counted repetition; `text` is what follows the opening brace. Without a lower
bound it is zero. -/
def readExtendedBounds (mode : Mode) (text : List Char) :
    Option ((Nat × Option Nat) × List Char) := do
  let text ← mode.skipFiller? text
  let (low, text) ← match text with
    | ',' :: _ => some (0, text)
    | _ => readDecimal text
  let text ← mode.skipFiller? text
  let (high, text) ← match text with
    | '\x7d' :: _ => some (some low, text)
    | ',' :: rest => do
        let rest ← mode.skipFiller? rest
        match readDecimal rest with
        | some (high, rest) => some (if high = Nat.pow 2 64 - 1 then none else some high, rest)
        | none => some (none, rest)
    | _ => none
  match ← mode.skipFiller? text with
  | '\x7d' :: rest => some ((low, high), rest)
  | _ => none

/-- Whether a repetition may apply to the expression. -/
def Extended.repeatable : Extended → Bool
  | look .. | empty | assertion _ => false
  | _ => true

/-- Applies the repetition that follows an expression, if one does. -/
def readRepetition (child : Extended) : Reads Extended := do
  Reads.skip
  let reading ← get
  let bounds := match reading.rest with
    | '?' :: rest => some ((0, some 1), rest)
    | '*' :: rest => some ((0, none), rest)
    | '+' :: rest => some ((1, none), rest)
    | '{' :: rest => readExtendedBounds reading.mode rest
    | _ => none
  match bounds with
  | none => pure child
  | some ((low, high), rest) =>
      if !child.repeatable then Reads.fail
      else do
        Reads.setRest rest
        Reads.skip
        let (lazily, rest) := match (← get).rest with
          | '?' :: rest => (true, rest)
          | rest => (false, rest)
        let node := Extended.repetition low high (lazily == reading.mode.swapGreed) child
        match rest with
        | '+' :: rest => do
            Reads.setRest rest
            pure (.atomic node)
        | rest => do
            Reads.setRest rest
            pure node

/-! ## Groups, branches and choices -/

/-- How a list of switches ends. -/
inductive SwitchEnd
  | inForce
  | opensGroup
deriving DecidableEq

/-- Reads switches up to the closing sign. `count` is the number of signs so far and `value` what
the letters are set to. -/
def readExtendedSwitches : Nat → Nat → Bool → Reads SwitchEnd
  | 0, _, _ => Reads.fail
  | fuel + 1, count, value => do
      Reads.skip
      let reading ← get
      match reading.rest with
      | [] => Reads.fail
      | ')' :: rest =>
          if count = 0 ∨ (!value ∧ count = 1) then Reads.fail
          else do
            Reads.setRest rest
            pure .inForce
      | ':' :: rest =>
          if !value ∧ count = 1 then Reads.fail
          else do
            Reads.setRest rest
            pure .opensGroup
      | '-' :: rest =>
          if !value then Reads.fail
          else do
            Reads.setRest rest
            readExtendedSwitches fuel (count + 1) false
      | c :: rest =>
          match reading.mode.set? value c with
          | some mode => do
              set { reading with mode, rest }
              readExtendedSwitches fuel (count + 1) value
          | none => Reads.fail

/-- Reads the parenthesis that closes a group. -/
def readClose : Reads Unit := do
  Reads.skip
  match (← get).rest with
  | ')' :: rest => Reads.setRest rest
  | _ => Reads.fail

/-- Opens a group that records what it matches and returns its index. -/
def openGroup : Reads Nat := do
  let reading ← get
  set { reading with groups := reading.groups + 1 }
  pure (reading.groups + 1)

/-- Opens a group with a name, which is read up to its closing bracket. -/
def openNamedGroup : Reads Nat := do
  let index ← openGroup
  let name ← Reads.take fun _ text => readName false '>' text
  modify fun reading => { reading with names := (name, index) :: reading.names }
  pure index

/-- The sequence of the pieces, which are given in reverse. -/
def Extended.ofPieces (reversed : List Extended) : Extended :=
  match reversed with
  | [] => .empty
  | [piece] => piece
  | pieces => .seq pieces.reverse

mutual

/-- Reads a choice. -/
def readExtendedChoice (bytes : Nat) : Nat → Nat → Reads Extended
  | 0, _ => Reads.fail
  | fuel + 1, depth => do
      let first ← readExtendedBranch bytes fuel depth []
      Reads.skip
      match (← get).rest with
      | '|' :: rest => do
          Reads.setRest rest
          readFurtherBranches bytes fuel depth [first]
      | _ =>
          let reading ← get
          if reading.numbered && !reading.names.isEmpty then Reads.fail else pure first

/-- Reads the branches after a bar; `branches` are those before, the latest first. -/
def readFurtherBranches (bytes : Nat) : Nat → Nat → List Extended → Reads Extended
  | 0, _, _ => Reads.fail
  | fuel + 1, depth, branches => do
      let next ← readExtendedBranch bytes fuel depth []
      Reads.skip
      match (← get).rest with
      | '|' :: rest => do
          Reads.setRest rest
          readFurtherBranches bytes fuel depth (next :: branches)
      | _ => pure (.alt (next :: branches).reverse)

/-- Reads pieces until one takes nothing; `pieces` are those before, the latest first. -/
def readExtendedBranch (bytes : Nat) : Nat → Nat → List Extended → Reads Extended
  | 0, _, _ => Reads.fail
  | fuel + 1, depth, pieces => do
      let before := (← get).rest
      if before.isEmpty then
        return .ofPieces pieces
      let piece ← readRepetition (← readAtom bytes fuel depth)
      if (← get).rest.length = before.length then
        return .ofPieces pieces
      match piece with
      | .empty => readExtendedBranch bytes fuel depth pieces
      | piece => readExtendedBranch bytes fuel depth (piece :: pieces)

/-- Reads what a repetition can apply to. -/
def readAtom (bytes : Nat) : Nat → Nat → Reads Extended
  | 0, _ => Reads.fail
  | fuel + 1, depth => do
      Reads.skip
      let reading ← get
      let mode := reading.mode
      match reading.rest with
      | [] => pure .empty
      | '.' :: rest => do
          Reads.setRest rest
          pure (.any mode.dotAll)
      | '^' :: rest => do
          Reads.setRest rest
          pure (.assertion (if mode.multiLine then .startLine else .startText))
      | '$' :: rest => do
          Reads.setRest rest
          pure (.assertion (if mode.multiLine then .endLine else .endText))
      | '(' :: rest => do
          Reads.setRest rest
          readGroup bytes fuel (depth + 1)
      | '\\' :: rest => do
          Reads.setRest rest
          match ← readExtendedEscape bytes with
          | .backref group => do
              modify fun reading => { reading with referenced := group :: reading.referenced }
              pure (.backref group)
          | expression => pure expression
      | '[' :: rest => do
          Reads.setRest rest
          let chars ← Reads.take readExtendedClass
          Reads.skip
          pure (.set chars)
      | c :: rest =>
          if ['+', '*', '?', '|', ')'].contains c then pure .empty
          else do
            Reads.setRest rest
            pure (.literal c mode.ignoreCase)

/-- Reads what follows an opening parenthesis. -/
def readGroup (bytes : Nat) : Nat → Nat → Reads Extended
  | 0, _ => Reads.fail
  | fuel + 1, depth => do
      if maxDepth ≤ depth then
        Reads.fail
      Reads.skip
      match (← get).rest with
      | '?' :: '=' :: rest => do
          Reads.setRest rest
          let body ← readBody bytes fuel depth
          pure (.look false false body)
      | '?' :: '!' :: rest => do
          Reads.setRest rest
          let body ← readBody bytes fuel depth
          pure (.look false true body)
      | '?' :: '<' :: '=' :: rest => do
          Reads.setRest rest
          let body ← readBody bytes fuel depth
          pure (.look true false body)
      | '?' :: '<' :: '!' :: rest => do
          Reads.setRest rest
          let body ← readBody bytes fuel depth
          pure (.look true true body)
      | '?' :: '<' :: rest => do
          Reads.setRest rest
          let index ← openNamedGroup
          let body ← readBody bytes fuel depth
          pure (.group index body)
      | '?' :: 'P' :: '<' :: rest => do
          Reads.setRest rest
          let index ← openNamedGroup
          let body ← readBody bytes fuel depth
          pure (.group index body)
      | '?' :: 'P' :: '=' :: rest => do
          Reads.setRest rest
          return .backref (← readNamedReference false ')')
      | '?' :: '>' :: rest => do
          Reads.setRest rest
          let body ← readBody bytes fuel depth
          pure (.atomic body)
      | '?' :: '(' :: rest => do
          Reads.setRest rest
          readConditional bytes fuel depth
      | '?' :: rest => do
          let outer := (← get).mode
          Reads.setRest rest
          match ← readExtendedSwitches (rest.length + 1) 0 true with
          | .inForce => pure .empty
          | .opensGroup => do
              let body ← readExtendedChoice bytes fuel depth
              match (← get).rest with
              | ')' :: rest => do
                  modify fun reading => { reading with mode := outer, rest }
                  pure body
              | _ => Reads.fail
      | _ => do
          let index ← openGroup
          let body ← readBody bytes fuel depth
          pure (.group index body)

/-- Reads the body of a group and its closing parenthesis. -/
def readBody (bytes : Nat) : Nat → Nat → Reads Extended
  | 0, _ => Reads.fail
  | fuel + 1, depth => do
      let body ← readExtendedChoice bytes fuel depth
      readClose
      pure body

/-- Reads a conditional after `(?(`: a condition, then one or two branches. A reference as the
condition asks whether its group recorded something, and it may stand alone. -/
def readConditional (bytes : Nat) : Nat → Nat → Reads Extended
  | 0, _ => Reads.fail
  | fuel + 1, depth => do
      let condition ← match (← get).rest with
        | [] => Reads.fail
        | '\'' :: rest => do
            Reads.setRest rest
            pure (.backref (← readNamedReference true '\''))
        | '<' :: rest => do
            Reads.setRest rest
            pure (.backref (← readNamedReference true '>'))
        | c :: _ =>
            if isAsciiDigit c then do
              pure (.backref (← readNumberedReference bytes))
            else readExtendedChoice bytes fuel depth
      readClose
      let before := (← get).rest
      let child ← readExtendedChoice bytes fuel depth
      let alone := (← get).rest.length = before.length
      readClose
      let condition' := match condition with
        | .backref group => .recorded group
        | condition => condition
      if alone then
        match condition with
        | .backref group => pure (.recorded group)
        | _ => Reads.fail
      else
        let (yes, no) := match child with
          | .alt (first :: [second]) => (first, second)
          | .alt (first :: others) => (first, .alt others)
          | child => (child, .empty)
        match yes, no with
        | .empty, .empty => pure condition'
        | yes, no => pure (.conditional condition' yes no)

end

/-- The size of a text in UTF-8. -/
def byteCount (text : List Char) : Nat := text.foldl (fun total c => total + c.utf8Size) 0

namespace Extended

/-- The expression that a pattern stands for, and the groups that its back-references name. -/
def read? (pattern : List Char) : Option (Extended × List Nat) :=
  let start : Reading := ⟨Mode.initial, [], 0, false, [], pattern⟩
  match readExtendedChoice (byteCount pattern) (8 * pattern.length + 8) 0 start with
  | some (expression, reading) =>
      if reading.rest.isEmpty then some (expression, reading.referenced) else none
  | none => none

end Extended

end AgentClassifier.Pattern

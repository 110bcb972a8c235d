import AgentClassifier.CharSet
import AgentClassifier.Yaml.Cursor

/-!
Scalars: the texts in a document.

* `Scalar` : a text and the style in which it was written.
* `foldBreaks` : the text that ends of lines stand for between two words.
* `Scalar.quoted?`, `Scalar.plain?`, `Scalar.block?` : read a scalar of each style.
-/

namespace AgentClassifier.Yaml

/-- The way in which a scalar is written. -/
inductive Style
  | plain
  | quoted
  /-- A block that keeps its lines. -/
  | literal
  /-- A block whose lines are joined. -/
  | folded
deriving DecidableEq, Repr, Inhabited

/-- A text and its style. -/
structure Scalar where
  style : Style
  text : String
deriving DecidableEq, Repr, Inhabited

/-- The scalar that stands where nothing is written. -/
def Scalar.empty : Scalar := ⟨.plain, ""⟩

/-! ## Words over several lines -/

/-- What ends of lines stand for between two words: one line feed for a space, and a further one
for itself. Other separators stand for themselves. -/
def foldBreaks : List Char → List Char
  | ['\n'] => [' ']
  | '\n' :: marks => marks
  | marks => marks

/-- What stands between two words. -/
structure Gap where
  /-- The text that joins the words. -/
  text : List Char
  /-- Whether the words are on different lines. -/
  broken : Bool
deriving Repr, Inhabited

/-- Reads the blanks and ends of lines up to the next word. No tab may stand in the first `indent`
columns of a line. -/
def Cursor.gap? (cursor : Cursor) (indent : Nat) : Option (Gap × Cursor) := do
  let (blanks, cursor) := cursor.span isBlank
  let (marks, cursor) ← cursor.breaks indent
  return (if marks.isEmpty then ⟨blanks, false⟩ else ⟨foldBreaks marks, true⟩, cursor)

/-! ## Quoted scalars -/

/-- The character that a backslash and a letter stand for. -/
def shortEscape? : Char → Option Char
  | '0' => some '\x00'
  | 'a' => some '\x07'
  | 'b' => some '\x08'
  | 't' | '\t' => some '\t'
  | 'n' => some '\n'
  | 'v' => some '\x0b'
  | 'f' => some '\x0c'
  | 'r' => some '\r'
  | 'e' => some '\x1b'
  | ' ' => some ' '
  | '"' => some '"'
  | '/' => some '/'
  | '\\' => some '\\'
  | 'N' => some '\u0085'
  | '_' => some '\u00a0'
  | 'L' => some '\u2028'
  | 'P' => some '\u2029'
  | _ => none

/-- The number of digits of an escape that gives a code point. -/
def codeEscape? : Char → Option Nat
  | 'x' => some 2
  | 'u' => some 4
  | 'U' => some 8
  | _ => none

/-- The number that hexadecimal digits write. -/
def hexValue? (digits : List Char) : Option Nat :=
  digits.foldl (fun value digit => do return (← value) * 16 + (← CharSet.hexDigit? digit)) (some 0)

/-- The character with the code point. -/
def charOf? (code : Nat) : Option Char :=
  if code.isValidChar then some (Char.ofNat code) else none

/-- Reads what follows the backslash of an escape. -/
def Cursor.escape? (cursor : Cursor) : Option (Char × Cursor) := do
  let letter ← cursor.peek?
  match shortEscape? letter with
  | some c => return (c, cursor.skip 1)
  | none =>
      let count ← codeEscape? letter
      let digits := (cursor.skip 1).rest.take count
      if digits.length < count then none
      let c ← charOf? (← hexValue? digits)
      return (c, cursor.skip (1 + count))

/-- Reads up to the closing quote. `read` is the text so far, from its end; the characters of
`bound` limit the number of steps. -/
def Cursor.quotedWithin (double : Bool) :
    (bound : List Char) → (read : List Char) → Cursor → Option (List Char × Cursor)
  | [], _, _ => none
  | _ :: bound, read, cursor => do
      if cursor.atDocumentMark then none
      let quote := if double then '"' else '\''
      let c ← cursor.peek?
      let next := cursor.skip 1
      if isBlank c || isBreak c then
        let (gap, cursor) ← cursor.gap? 0
        quotedWithin double bound (gap.text.reverse ++ read) cursor
      else if c == quote then
        if !double && next.sees quote then quotedWithin double bound (c :: read) (next.skip 1)
        else return (read.reverse, next)
      else if double && c == '\\' then
        match next.readBreak? with
        | some (_, line) =>
            let (marks, cursor) ← line.skipBlanks.breaks 0
            quotedWithin double bound (marks.reverse ++ read) cursor
        | none =>
            let (c, cursor) ← next.escape?
            quotedWithin double bound (c :: read) cursor
      else quotedWithin double bound (c :: read) next

/-- Reads a scalar in single or double quotes. -/
def Scalar.quoted? (double : Bool) (cursor : Cursor) : Option (Scalar × Cursor) :=
  ((cursor.skip 1).quotedWithin double cursor.rest []).map fun (text, cursor) =>
    (⟨.quoted, String.ofList text⟩, cursor)

/-! ## Plain scalars -/

/-- The indicators of collections in brackets and braces. -/
def isFlowIndicator (c : Char) : Bool :=
  c == ',' || c == '[' || c == ']' || c == '{' || c == '}'

/-- The word of a plain scalar that begins here. It ends before a colon that separates, and in a
collection before its indicators, where a colon may not touch them. -/
def plainWord? (inFlow : Bool) : List Char → Option (List Char)
  | [] => some []
  | c :: rest =>
      if isBlank c || isBreak c then some []
      else if inFlow && c == ':' && rest.head?.any (fun d => isFlowIndicator d || d == '?') then none
      else if c == ':' && endsWord rest then some []
      else if inFlow && isFlowIndicator c then some []
      else (plainWord? inFlow rest).map (c :: ·)

/-- A plain scalar that was read. -/
structure Plain where
  text : List Char
  /-- Whether ends of lines were read after its last word. -/
  broken : Bool
  cursor : Cursor

/-- Reads the words of a plain scalar that stands deeper than `indent`; `gap` joins the next word
to those before it. The characters of `bound` limit the number of words. -/
def Cursor.plainWithin (inFlow : Bool) (indent : Nat) :
    (bound : List Char) → Gap → Cursor → Option Plain
  | [], _, _ => none
  | _ :: bound, gap, cursor => do
      let stop : Plain := ⟨[], gap.broken, cursor⟩
      if cursor.atDocumentMark || cursor.sees '#' then return stop
      let word ← plainWord? inFlow cursor.rest
      if word.isEmpty then return stop
      let text := gap.text ++ word
      let ahead := cursor.skip word.length
      if !ahead.rest.head?.any (fun c => isBlank c || isBreak c) then return ⟨text, false, ahead⟩
      let (gap, ahead) ← ahead.gap? indent
      if !inFlow && ahead.column < indent then return ⟨text, gap.broken, ahead⟩
      let tail ← plainWithin inFlow indent bound gap ahead
      return { tail with text := text ++ tail.text }

/-- Reads a plain scalar. -/
def Scalar.plain? (inFlow : Bool) (indent : Nat) (cursor : Cursor) :
    Option (Scalar × Bool × Cursor) :=
  (cursor.plainWithin inFlow indent cursor.rest ⟨[], false⟩).map fun plain =>
    (⟨.plain, String.ofList plain.text⟩, plain.broken, plain.cursor)

/-! ## Block scalars -/

/-- What becomes of the ends of lines at the end of a block. -/
inductive Chomping
  /-- All are dropped. -/
  | strip
  /-- The first one stays. -/
  | clip
  /-- All stay. -/
  | keep
deriving DecidableEq, Repr

def chomping? : Char → Option Chomping
  | '-' => some .strip
  | '+' => some .keep
  | _ => none

/-- What the first line of a block says. -/
structure BlockHeader where
  chomping : Chomping
  /-- How much deeper the block stands than what is around it, or zero if its first line of text
  shows that. -/
  depth : Nat
deriving Repr

/-- Reads a depth, which may not be zero. -/
def Cursor.depth? (cursor : Cursor) : Option (Nat × Cursor) :=
  match cursor.peek? with
  | some c =>
      if c == '0' then none
      else if c.isDigit then some (c.toNat - '0'.toNat, cursor.skip 1)
      else some (0, cursor)
  | none => some (0, cursor)

/-- Reads how the block ends, if it is said here. -/
def Cursor.chomping? (cursor : Cursor) : Option (Chomping × Cursor) :=
  (cursor.peek?.bind Yaml.chomping?).map fun chomping => (chomping, cursor.skip 1)

/-- Leaves out blanks and a comment; then the line has to end. -/
def Cursor.restOfLine? (cursor : Cursor) : Option Cursor :=
  let cursor := cursor.skipBlanks.skipComment
  if endsLine cursor.rest then some cursor.skipBreak else none

/-- Reads the first line of a block: the two indicators may stand in any order. -/
def Cursor.blockHeader? (cursor : Cursor) : Option (BlockHeader × Cursor) := do
  match cursor.chomping? with
  | some (chomping, cursor) =>
      let (depth, cursor) ← cursor.depth?
      return (⟨chomping, depth⟩, ← cursor.restOfLine?)
  | none =>
      let (depth, cursor) ← cursor.depth?
      match (if depth = 0 then none else cursor.chomping?) with
      | some (chomping, cursor) => return (⟨chomping, depth⟩, ← cursor.restOfLine?)
      | none => return (⟨.clip, depth⟩, ← cursor.restOfLine?)

/-- Leaves out spaces, at most up to a column. -/
def Cursor.indentTo (cursor : Cursor) (indent : Option Nat) : Cursor :=
  let spaces := cursor.rest.takeWhile (· == ' ')
  let limit := indent.map (· - cursor.column)
  cursor.skip ((limit.map (min spaces.length)).getD spaces.length)

/-- Reads the empty lines in a block, and the indentation of the next line. `deepest` is the
largest column reached; no tab may stand in the indentation. -/
def Cursor.emptyLinesWithin (indent : Option Nat) :
    (bound : List Char) → (deepest : Nat) → Cursor → Option (List Char × Nat × Cursor)
  | bound, deepest, cursor =>
      let cursor := cursor.indentTo indent
      let deepest := max deepest cursor.column
      if indent.all (cursor.column < ·) && cursor.sees '\t' then none
      else match bound, cursor.readBreak? with
        | _ :: bound, some (mark, cursor) =>
            (emptyLinesWithin indent bound deepest cursor).map fun (marks, deepest, cursor) =>
              (mark :: marks, deepest, cursor)
        | _, _ => some ([], deepest, cursor)

/-- The lines of a block that were read so far. -/
structure Block where
  /-- The text, from its end, without the last end of line. -/
  text : List Char
  /-- The end of the last line, if it has one. -/
  lastBreak : Option Char
  /-- The ends of the empty lines after it. -/
  marks : List Char
  /-- Whether the last line begins with a blank. -/
  blankStart : Bool
  cursor : Cursor

/-- What stands between the lines read so far and the next one. -/
def Block.joint (block : Block) (folded blankNext : Bool) : List Char :=
  if folded && block.lastBreak == some '\n' && !block.blankStart && !blankNext then
    if block.marks.isEmpty then [' '] else block.marks
  else block.lastBreak.toList ++ block.marks

/-- Reads the lines of a block. The characters of `bound` limit their number. -/
def Block.linesWithin (folded : Bool) (indent : Nat) : (bound : List Char) → Block → Option Block
  | [], _ => none
  | _ :: bound, block => do
      match block.cursor.peek? with
      | none => return block
      | some c =>
          if block.cursor.column ≠ indent then return block
          let (line, cursor) := block.cursor.span fun c => !isBreak c
          let (lastBreak, cursor) := match cursor.readBreak? with
            | some (mark, cursor) => (some mark, cursor)
            | none => (none, cursor)
          let (marks, _, cursor) ← cursor.emptyLinesWithin (some indent) cursor.rest 0
          let joint := block.joint folded (isBlank c)
          linesWithin folded indent bound
            ⟨line.reverse ++ joint.reverse ++ block.text, lastBreak, marks, isBlank c, cursor⟩

/-- The whole text of a block. -/
def Block.chomp (block : Block) : Chomping → List Char
  | .strip => block.text.reverse
  | .clip => block.text.reverse ++ block.lastBreak.toList
  | .keep => block.text.reverse ++ block.lastBreak.toList ++ block.marks

/-- Reads a block inside of what stands at the column `outer`. -/
def Scalar.block? (folded : Bool) (outer : Option Nat) (cursor : Cursor) :
    Option (Scalar × Cursor) := do
  let (header, cursor) ← (cursor.skip 1).blockHeader?
  let given := if header.depth = 0 then none else some (outer.getD 0 + header.depth)
  let (marks, deepest, start) ← cursor.emptyLinesWithin given cursor.rest 0
  let indent := given.getD (max deepest (max ((outer.map (· + 1)).getD 0) 1))
  let block ← Block.linesWithin folded indent (' ' :: start.rest) ⟨[], none, marks, false, start⟩
  return (⟨if folded then .folded else .literal, String.ofList (block.chomp header.chomping)⟩,
    block.cursor)

end AgentClassifier.Yaml

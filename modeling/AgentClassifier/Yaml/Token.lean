import AgentClassifier.Yaml.Scalar
import AgentClassifier.Yaml.Tag

/-!
The tokens of a document.

* `Token` : the tokens; the indentation of blocks shows as tokens for their starts and ends.
* `Scan` : the text that is left, the tokens so far, the open blocks, and the places at which a
  mapping key without indicator may have begun. When its colon comes, the tokens for the key, and
  for its mapping if that is new, are inserted there.
* `Token.ofText?` : all tokens of a text.
-/

namespace AgentClassifier.Yaml

/-- A token of a document. -/
inductive Token
  | versionDirective (major minor : Nat)
  | tagDirective (tag : TagText)
  | documentStart
  | documentEnd
  | streamEnd
  | blockSequenceStart
  | blockMappingStart
  | blockEnd
  | flowSequenceStart
  | flowSequenceEnd
  | flowMappingStart
  | flowMappingEnd
  | blockEntry
  | flowEntry
  | key
  | value
  | alias (name : String)
  | anchor (name : String)
  | tag (tag : TagText)
  | scalar (scalar : Scalar)
deriving DecidableEq, Repr, Inhabited

/-- A place where a key without indicator may have begun. -/
structure KeyPlace where
  /-- Whether nothing but a key may stand there. -/
  required : Bool
  /-- The number of tokens before it. -/
  tokenCount : Nat
  /-- Where the text of the key begins. -/
  cursor : Cursor

/-- The state of scanning. -/
structure Scan where
  cursor : Cursor
  /-- The tokens so far, the latest first. -/
  tokens : List Token
  /-- The columns of the open blocks, the innermost first. -/
  indents : List Nat
  /-- Whether a key without indicator may begin here. -/
  keyAllowed : Bool
  /-- Where the key at this level may have begun. -/
  keyPlace : Option KeyPlace
  /-- The same for the levels around the open collections in brackets and braces. -/
  outerPlaces : List (Option KeyPlace)

namespace Scan

def start (text : List Char) : Scan := ⟨Cursor.start text, [], [], true, none, []⟩

/-- Whether a collection in brackets or braces is open. -/
def inFlow (scan : Scan) : Bool := !scan.outerPlaces.isEmpty

def push (scan : Scan) (token : Token) : Scan := { scan with tokens := token :: scan.tokens }

/-- Goes on in the line and adds a token. -/
def take (scan : Scan) (count : Nat) (token : Token) : Scan :=
  { scan with cursor := scan.cursor.skip count, tokens := token :: scan.tokens }

def allowKey (scan : Scan) (allowed : Bool) : Scan := { scan with keyAllowed := allowed }

/-! ## Keys -/

/-- A key has to have its colon in the same line and within 1024 characters. -/
def isStale (scan : Scan) (place : KeyPlace) : Bool :=
  place.cursor.line < scan.cursor.line || place.cursor.index + 1024 < scan.cursor.index

/-- Forgets a place of a key, which may not be a required one. -/
def forget? : Option KeyPlace → Option (Option KeyPlace)
  | some place => if place.required then none else some none
  | none => some none

/-- Forgets a place that is too far away. -/
def forgetIfStale? (scan : Scan) (place : Option KeyPlace) : Option (Option KeyPlace) :=
  if place.any scan.isStale then forget? place else some place

/-- Forgets all places that are too far away. -/
def forgetStale? (scan : Scan) : Option Scan := do
  let keyPlace ← scan.forgetIfStale? scan.keyPlace
  let outerPlaces ← scan.outerPlaces.mapM scan.forgetIfStale?
  return { scan with keyPlace, outerPlaces }

/-- Forgets the place at this level. -/
def forgetPlace? (scan : Scan) : Option Scan :=
  (forget? scan.keyPlace).map fun keyPlace => { scan with keyPlace }

/-- Notes that a key may begin here. In a block, the column of its keys has no other use. -/
def notePlace? (scan : Scan) : Option Scan :=
  if scan.keyAllowed then
    let required := !scan.inFlow && scan.indents.head? == some scan.cursor.column
    let place : KeyPlace := ⟨required, scan.tokens.length, scan.cursor⟩
    scan.forgetPlace?.map fun scan => { scan with keyPlace := some place }
  else some scan

/-! ## Blocks -/

/-- Ends the blocks to the right of a column. -/
def closeBlocks (scan : Scan) (column : Nat) : Scan :=
  if scan.inFlow then scan
  else
    let closed := scan.indents.takeWhile (column < ·)
    { scan with
      indents := scan.indents.drop closed.length
      tokens := closed.foldl (fun tokens _ => .blockEnd :: tokens) scan.tokens }

/-- Ends all blocks. -/
def closeAllBlocks (scan : Scan) : Scan :=
  if scan.inFlow then scan
  else { scan with
    indents := []
    tokens := scan.indents.foldl (fun tokens _ => .blockEnd :: tokens) scan.tokens }

/-- The tokens with another one after the first `count` of them. -/
def insertAfter (tokens : List Token) (count : Nat) (token : Token) : List Token :=
  tokens.insertIdx (tokens.length - count) token

/-- Begins a block at a column that is to the right of the open ones. Its token is inserted after
`tokenCount` tokens. -/
def openBlock (scan : Scan) (column tokenCount : Nat) (token : Token) : Scan :=
  if scan.inFlow || scan.indents.head?.any (column ≤ ·) then scan
  else { scan with
    indents := column :: scan.indents
    tokens := insertAfter scan.tokens tokenCount token }

/-- Begins a block at the cursor, where it has to be allowed. -/
def openBlockHere? (scan : Scan) (token : Token) : Option Scan :=
  if scan.inFlow then some scan
  else if scan.keyAllowed then
    some (scan.openBlock scan.cursor.column scan.tokens.length token)
  else none

/-! ## Between tokens -/

/-- Leaves out blanks. Where a key may begin in a block, a tab is none. -/
def skipBlanks (scan : Scan) : Scan :=
  let tabs := scan.inFlow || !scan.keyAllowed
  { scan with cursor := (scan.cursor.span fun c => c == ' ' || (tabs && c == '\t')).2 }

/-- Leaves out blanks, comments and ends of lines. The characters of `bound` limit the number of
lines. -/
def toTokenWithin : (bound : List Char) → Scan → Scan
  | [], scan => scan
  | _ :: bound, scan =>
      let scan := scan.skipBlanks
      let cursor := scan.cursor.skipComment
      match cursor.readBreak? with
      | none => { scan with cursor }
      | some (_, cursor) =>
          toTokenWithin bound { scan with cursor, keyAllowed := scan.keyAllowed || !scan.inFlow }

/-- Goes on to the next token. A mark of byte order at the very start is left out. -/
def toToken (scan : Scan) : Scan :=
  let scan :=
    if scan.cursor.index == 0 && scan.cursor.sees '\ufeff' then
      { scan with cursor := scan.cursor.skip 1 }
    else scan
  scan.toTokenWithin (' ' :: scan.cursor.rest)

/-! ## Single tokens -/

/-- The end of the text. -/
def endStream? (scan : Scan) : Option Scan :=
  (scan.closeAllBlocks.forgetPlace?).map fun scan => (scan.allowKey false).push .streamEnd

/-- Reads a number of at most nine digits. -/
def versionNumber? (cursor : Cursor) : Option (Nat × Cursor) :=
  let (digits, cursor) := cursor.span Char.isDigit
  if digits.isEmpty || 9 < digits.length then none
  else
    some (digits.foldl (fun value digit => value * 10 + (digit.toNat - '0'.toNat)) 0, cursor)

/-- Reads what follows the name of a directive. -/
def directiveToken? (name : List Char) (cursor : Cursor) : Option (Token × Cursor) :=
  if name == "YAML".toList then do
    let (major, cursor) ← versionNumber? cursor.skipBlanks
    if !cursor.sees '.' then none
    let (minor, cursor) ← versionNumber? (cursor.skip 1)
    return (.versionDirective major minor, cursor)
  else if name == "TAG".toList then
    cursor.tagDirective?.map fun (tag, cursor) => (.tagDirective tag, cursor)
  else none

def directive? (scan : Scan) : Option Scan := do
  let scan ← scan.closeAllBlocks.forgetPlace?
  let (name, cursor) := (scan.cursor.skip 1).span isNameChar
  if name.isEmpty || !endsWord cursor.rest then none
  let (token, cursor) ← directiveToken? name cursor
  let cursor ← cursor.restOfLine?
  return { (scan.allowKey false).push token with cursor }

def documentMark? (scan : Scan) (token : Token) : Option Scan := do
  let scan ← scan.closeAllBlocks.forgetPlace?
  return (scan.allowKey false).take 3 token

def flowStart? (scan : Scan) (token : Token) : Option Scan := do
  let scan ← scan.notePlace?
  return { (scan.allowKey true).take 1 token with
    keyPlace := none
    outerPlaces := scan.keyPlace :: scan.outerPlaces }

def flowEnd? (scan : Scan) (token : Token) : Option Scan := do
  let scan ← scan.forgetPlace?
  let scan := (scan.allowKey false).take 1 token
  match scan.outerPlaces with
  | [] => return scan
  | keyPlace :: outerPlaces => return { scan with keyPlace, outerPlaces }

def flowEntry? (scan : Scan) : Option Scan := do
  let scan ← scan.forgetPlace?
  return (scan.allowKey true).take 1 .flowEntry

def blockEntry? (scan : Scan) : Option Scan := do
  let scan ← scan.openBlockHere? .blockSequenceStart
  let scan ← scan.forgetPlace?
  return (scan.allowKey true).take 1 .blockEntry

/-- A key with its indicator. -/
def key? (scan : Scan) : Option Scan := do
  let scan ← scan.openBlockHere? .blockMappingStart
  let scan ← scan.forgetPlace?
  return (scan.allowKey !scan.inFlow).take 1 .key

/-- The colon before a value; it tells whether there was a key without indicator. -/
def value? (scan : Scan) : Option Scan :=
  match scan.keyPlace with
  | some place =>
      let scan := { scan with
        tokens := insertAfter scan.tokens place.tokenCount .key
        keyPlace := none }
      let scan := scan.openBlock place.cursor.column place.tokenCount .blockMappingStart
      some ((scan.allowKey false).take 1 .value)
  | none => do
      let scan ← scan.openBlockHere? .blockMappingStart
      return (scan.allowKey !scan.inFlow).take 1 .value

/-- Reads the name of an anchor. -/
def anchorName? (cursor : Cursor) : Option (String × Cursor) :=
  let (name, cursor) := (cursor.skip 1).span isNameChar
  if name.isEmpty then none
  else if endsWord cursor.rest ||
      cursor.rest.head?.any fun c => "?:,]\x7d%@\x60".toList.contains c then
    some (String.ofList name, cursor)
  else none

/-- Reads a token with which a key may begin. -/
def keyStart? (scan : Scan) (read? : Cursor → Option (Token × Cursor)) : Option Scan := do
  let scan ← scan.notePlace?
  let (token, cursor) ← read? scan.cursor
  return { (scan.allowKey false).push token with cursor }

def anchor? (scan : Scan) : Option Scan :=
  scan.keyStart? fun cursor => (anchorName? cursor).map fun (name, cursor) => (.anchor name, cursor)

def alias? (scan : Scan) : Option Scan :=
  scan.keyStart? fun cursor => (anchorName? cursor).map fun (name, cursor) => (.alias name, cursor)

def tag? (scan : Scan) : Option Scan :=
  scan.keyStart? fun cursor =>
    (cursor.tag? scan.inFlow).map fun (tag, cursor) => (.tag tag, cursor)

def quoted? (double : Bool) (scan : Scan) : Option Scan :=
  scan.keyStart? fun cursor =>
    (Scalar.quoted? double cursor).map fun (scalar, cursor) => (.scalar scalar, cursor)

/-- The column to the right of the innermost block. -/
def innerColumn (scan : Scan) : Nat := (scan.indents.head?.map (· + 1)).getD 0

def plain? (scan : Scan) : Option Scan := do
  let scan ← scan.notePlace?
  let (scalar, broken, cursor) ← Scalar.plain? scan.inFlow scan.innerColumn scan.cursor
  return { (scan.allowKey broken).push (.scalar scalar) with cursor }

def block? (folded : Bool) (scan : Scan) : Option Scan := do
  let scan ← scan.forgetPlace?
  let (scalar, cursor) ← Scalar.block? folded scan.indents.head? scan.cursor
  return { (scan.allowKey true).push (.scalar scalar) with cursor }

/-! ## All tokens -/

/-- Whether a plain scalar may begin with the character, whatever follows. -/
def startsPlain (c : Char) : Bool :=
  !(isBlank c || isBreak c || "-?:,[]\x7b\x7d#&*!|>'\"%@\x60".toList.contains c)

/-- Reads the token that begins with `c`, where `rest` follows. -/
def token? (scan : Scan) (c : Char) (rest : List Char) : Option Scan :=
  let alone := endsWord rest
  if scan.cursor.column == 0 && c == '%' then scan.directive?
  else if scan.cursor.atDocumentMark then
    scan.documentMark? (if c == '-' then .documentStart else .documentEnd)
  else match c with
    | '[' => scan.flowStart? .flowSequenceStart
    | '{' => scan.flowStart? .flowMappingStart
    | ']' => scan.flowEnd? .flowSequenceEnd
    | '}' => scan.flowEnd? .flowMappingEnd
    | ',' => scan.flowEntry?
    | '-' =>
        if alone then scan.blockEntry?
        else scan.plain?
    | '?' => if scan.inFlow || alone then scan.key? else scan.plain?
    | ':' => if scan.inFlow || alone then scan.value? else scan.plain?
    | '*' => scan.alias?
    | '&' => scan.anchor?
    | '!' => scan.tag?
    | '|' => if scan.inFlow then none else scan.block? false
    | '>' => if scan.inFlow then none else scan.block? true
    | '\'' => scan.quoted? false
    | '"' => scan.quoted? true
    | c => if startsPlain c then scan.plain? else none

/-- Reads the remaining tokens; the characters of `bound` limit their number. -/
def restWithin : (bound : List Char) → Scan → Option Scan
  | [], _ => none
  | _ :: bound, scan => do
      let scan ← scan.toToken.forgetStale?
      let scan := scan.closeBlocks scan.cursor.column
      match scan.cursor.rest with
      | [] => scan.endStream?
      | c :: rest => restWithin bound (← scan.token? c rest)

end Scan

/-- All tokens of a text. -/
def Token.ofText? (text : String) : Option (List Token) :=
  let chars := text.toList
  if chars.all isPrintable then
    ((Scan.start chars).restWithin (' ' :: chars)).map fun scan => scan.tokens.reverse
  else none

end AgentClassifier.Yaml

/-!
Positions in the text of a document.

* `isBlank`, `isBreak`, `isNameChar` : the classes of characters that structure a document.
* `Cursor` : the characters that are left, with the place where they begin.
* `Cursor.span`, `Cursor.readBreak?` : reading on within a line, and over its end.
* `Cursor.breaks` : reading over empty lines and indentation.
-/

namespace AgentClassifier.Yaml

/-! ## Classes of characters -/

/-- Whether a document may hold the character at all. -/
def isPrintable (c : Char) : Bool :=
  c == '\t' || c == '\n' || c == '\r' || (' ' ≤ c && c ≤ '~') || c == '\u0085' ||
    ('\u00a0' ≤ c && c ≤ '\ufffd') || '\uffff' < c

/-- Blanks within a line. -/
def isBlank (c : Char) : Bool := c == ' ' || c == '\t'

/-- Ends of lines. -/
def isBreak (c : Char) : Bool :=
  c == '\n' || c == '\r' || c == '\u0085' || c == '\u2028' || c == '\u2029'

/-- The characters of the names of anchors, handles and directives. -/
def isNameChar (c : Char) : Bool := c.isAlphanum || c == '_' || c == '-'

/-- Whether no word goes on here. -/
def endsWord : List Char → Bool
  | [] => true
  | c :: _ => isBlank c || isBreak c

/-- Whether the line ends here. -/
def endsLine : List Char → Bool
  | [] => true
  | c :: _ => isBreak c

/-! ## Cursors -/

/-- The characters that are left, and how many characters, lines and columns came before. -/
structure Cursor where
  rest : List Char
  index : Nat
  line : Nat
  column : Nat
deriving Repr, Inhabited

namespace Cursor

/-- The beginning of a text. -/
def start (text : List Char) : Cursor := ⟨text, 0, 0, 0⟩

def peek? (cursor : Cursor) : Option Char := cursor.rest.head?

/-- Whether the next character is the given one. -/
def sees (cursor : Cursor) (c : Char) : Bool := cursor.peek? == some c

/-- Goes on by some characters of the line. -/
def skip (cursor : Cursor) (count : Nat) : Cursor :=
  ⟨cursor.rest.drop count, cursor.index + count, cursor.line, cursor.column + count⟩

/-- Reads the longest run of characters of the line that are in a class. -/
def span (cursor : Cursor) (within : Char → Bool) : List Char × Cursor :=
  let run := cursor.rest.takeWhile within
  (run, cursor.skip run.length)

def skipBlanks (cursor : Cursor) : Cursor := (cursor.span isBlank).2

/-- Leaves out a comment. -/
def skipComment (cursor : Cursor) : Cursor :=
  if cursor.sees '#' then (cursor.span fun c => !isBreak c).2 else cursor

/-- The beginning of the next line, after an end of line of so many characters. -/
def nextLine (cursor : Cursor) (count : Nat) : Cursor :=
  ⟨cursor.rest.drop count, cursor.index + count, cursor.line + 1, 0⟩

/-- Reads the end of a line. It stands for a line feed, save the two separators of Unicode, which
stand for themselves. -/
def readBreak? (cursor : Cursor) : Option (Char × Cursor) :=
  match cursor.rest with
  | '\r' :: '\n' :: _ => some ('\n', cursor.nextLine 2)
  | c :: _ =>
      if c == '\u2028' || c == '\u2029' then some (c, cursor.nextLine 1)
      else if isBreak c then some ('\n', cursor.nextLine 1)
      else none
  | [] => none

/-- Reads the end of the line if it is here. -/
def skipBreak (cursor : Cursor) : Cursor :=
  match cursor.readBreak? with
  | some (_, next) => next
  | none => cursor

/-- Whether the line begins with the mark of a document's start or end. -/
def atDocumentMark (cursor : Cursor) : Bool :=
  cursor.column == 0 &&
    match cursor.rest with
    | '-' :: '-' :: '-' :: rest => endsWord rest
    | '.' :: '.' :: '.' :: rest => endsWord rest
    | _ => false

/-- Reads ends of lines, each with the blanks after it, which do not count. No tab may stand in
the first `indent` columns. The characters of `bound` limit the number of lines. -/
def breaksWithin (indent : Nat) : (bound : List Char) → Cursor → Option (List Char × Cursor)
  | [], cursor => some ([], cursor)
  | _ :: bound, cursor =>
      match cursor.readBreak? with
      | none => some ([], cursor)
      | some (mark, cursor) =>
          let (blanks, cursor) := cursor.span isBlank
          if (blanks.take indent).contains '\t' then none
          else (breaksWithin indent bound cursor).map fun (marks, cursor) => (mark :: marks, cursor)

/-- Reads all ends of lines that follow. -/
def breaks (indent : Nat) (cursor : Cursor) : Option (List Char × Cursor) :=
  breaksWithin indent cursor.rest cursor

end Cursor

end AgentClassifier.Yaml

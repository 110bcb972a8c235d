import AgentClassifier.CharSet.Property

/-!
Conditions on a position between two characters, which consume nothing.

* `Assertion` : the conditions a pattern can state.
* `Assertion.holds` : when a position of a text meets one.
-/

namespace AgentClassifier.Pattern

/-- The text a pattern is searched in. A position `i` lies before the character of index `i`. -/
abbrev Subject := Array Char

/-- A condition on a position. -/
inductive Assertion
  /-- Nothing comes before. -/
  | startText
  /-- Nothing comes after. -/
  | endText
  /-- Nothing or a line feed comes before. -/
  | startLine
  /-- Nothing or a line feed comes after. -/
  | endLine
  /-- Exactly one side is a word character. -/
  | wordBoundary
  /-- Both sides are word characters, or neither is. -/
  | notWordBoundary
  /-- A word character comes after and none before. -/
  | wordStart
  /-- A word character comes before and none after. -/
  | wordEnd
deriving DecidableEq, Repr

/-- The character before a position. -/
def before? (text : Subject) (position : Nat) : Option Char :=
  match position with
  | 0 => none
  | previous + 1 => text[previous]?

def isWordChar (c : Option Char) : Bool :=
  match c with
  | some c => CharSet.wordChars.contains c
  | none => false

namespace Assertion

/-- Whether the assertion compares the two sides as word characters. -/
def looksAtWords : Assertion → Bool
  | startText | endText | startLine | endLine => false
  | wordBoundary | notWordBoundary | wordStart | wordEnd => true

/-- Whether a position of the text meets the condition. -/
def holds (text : Subject) (position : Nat) : Assertion → Bool
  | startText => position == 0
  | endText => position == text.size
  | startLine => position == 0 || before? text position == some '\n'
  | endLine => position == text.size || text[position]? == some '\n'
  | wordBoundary => isWordChar (before? text position) != isWordChar text[position]?
  | notWordBoundary => isWordChar (before? text position) == isWordChar text[position]?
  | wordStart => !isWordChar (before? text position) && isWordChar text[position]?
  | wordEnd => isWordChar (before? text position) && !isWordChar text[position]?

end Assertion

end AgentClassifier.Pattern

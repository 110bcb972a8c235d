import AgentClassifier.CharSet.Property

/-!
Blank text.

* `Blank.trim` : a text without the blanks at its ends.
* `Blank.unlessBlank` : a text, or nothing if it holds only blanks.
-/

namespace AgentClassifier.Blank

/-- Whether the character is blank in any script. -/
def isBlank (c : Char) : Bool := CharSet.spaces.contains c

/-- The text without the blanks at its start. -/
def trimStart (text : List Char) : List Char := text.dropWhile isBlank

/-- The text without the blanks at its end. -/
def trimEnd (text : List Char) : List Char := (trimStart text.reverse).reverse

/-- The text without the blanks at its ends. -/
def trim (text : List Char) : List Char := trimEnd (trimStart text)

/-- The text, or nothing if it holds only blanks. -/
def unlessBlank (text : List Char) : Option (List Char) :=
  if text.all isBlank then none else some text

end AgentClassifier.Blank

import AgentClassifier.CharSet.Folding
import AgentClassifier.CharSet.Name
import AgentClassifier.Pattern.Assertion

/-!
The parts of regular notation that stand for one character: escapes and bracketed classes.

* `Mode` : the switches that a pattern can set.
* `readEscape` : what an escape stands for.
* `readClass` : a bracketed class, with nested classes and the operators `&&`, `--` and `~~`. They
  bind weaker than juxtaposition, and from the left.
-/

namespace AgentClassifier.Pattern

/-- The switches of a pattern. -/
structure Mode where
  /-- Letters match in either case. -/
  ignoreCase : Bool
  /-- The anchors `^` and `$` match at line ends too. -/
  multiLine : Bool
  /-- The dot matches a line feed too. -/
  dotAll : Bool
  /-- Repetitions are lazy by default. -/
  swapGreed : Bool
  /-- Blanks and comments in the pattern are skipped. -/
  spaced : Bool
deriving DecidableEq, Repr

/-- The switches at the start of a pattern: all off. -/
def Mode.initial : Mode := ⟨false, false, false, false, false⟩

/-- A set under the mode: closed under case if case is ignored, and only then negated. -/
def Mode.applyTo (mode : Mode) (negated : Bool) (chars : CharSet) : CharSet :=
  let chars := if mode.ignoreCase then chars.foldCase else chars
  if negated then chars.compl else chars

/-- A character under the mode. -/
def Mode.charSet (mode : Mode) (c : Char) : CharSet :=
  mode.applyTo false (CharSet.singleton c)

/-- The rest of a comment line. -/
def skipLine : List Char → List Char
  | [] => []
  | c :: rest => if c = '\n' then rest else skipLine rest

theorem length_skipLine_le (text : List Char) : (skipLine text).length ≤ text.length := by
  induction text with
  | nil => simp [skipLine]
  | cons c rest ih =>
      unfold skipLine
      split
      · simp
      · simp only [List.length_cons]
        omega

/-- Skips blanks and comments. -/
def skipBlanks : List Char → List Char
  | [] => []
  | c :: rest =>
      if CharSet.spaces.contains c then skipBlanks rest
      else if c = '#' then skipBlanks (skipLine rest)
      else c :: rest
termination_by text => text.length
decreasing_by
  · simp
  · have := length_skipLine_le rest
    simp only [List.length_cons]
    omega

/-- Skips blanks and comments if the mode says so. -/
def Mode.skip (mode : Mode) (text : List Char) : List Char :=
  if mode.spaced then skipBlanks text else text

/-! ## Escapes -/

/-- What a piece of notation stands for. -/
inductive Primitive
  | literal (c : Char)
  | chars (chars : CharSet)
  | assertion (condition : Assertion)
deriving Repr

/-- The characters that have a meaning of their own somewhere in a pattern. -/
def isMeta (c : Char) : Bool :=
  "\\.+*?()|[]\x7b\x7d^$#&-~".toList.contains c

def isAsciiDigit (c : Char) : Bool := '0' ≤ c && c ≤ '9'

def isAsciiLetter (c : Char) : Bool := ('a' ≤ c && c ≤ 'z') || ('A' ≤ c && c ≤ 'Z')

/-- The character with a code point, unless it is out of range or a surrogate. -/
def charOfCode? (code : Nat) : Option Char :=
  if code < 0xD800 ∨ (0xDFFF < code ∧ code ≤ maxCodePoint) then some (Char.ofNat code) else none

/-- The value of hexadecimal digits. -/
def hexValue? (digits : List Char) : Option Nat :=
  digits.foldl (fun total c =>
    match total, CharSet.hexDigit? c with
    | some total, some digit => some (total * 16 + digit)
    | _, _ => none) (some 0)

/-- Splits at the first closing brace. -/
def untilBrace? : List Char → Option (List Char × List Char)
  | [] => none
  | c :: rest =>
      if c = '\x7d' then some ([], rest)
      else (untilBrace? rest).map fun (inside, after) => (c :: inside, after)

/-- A character by its code: `digits` hexadecimal digits, or any number of them in braces. -/
def readHex (digits : Nat) (text : List Char) : Option (Primitive × List Char) := do
  let (code, rest) ← match text with
    | '{' :: inner => do
        let (inside, rest) ← untilBrace? inner
        if inside.isEmpty then none else some (inside, rest)
    | _ =>
        let code := text.take digits
        if code.length = digits then some (code, text.drop digits) else none
  let c ← charOfCode? (← hexValue? code)
  some (.literal c, rest)

/-- Splits a text before and after the first occurrence of a mark. -/
def splitAtFirst? (mark : List Char) : List Char → Option (List Char × List Char)
  | [] => none
  | c :: rest =>
      if mark.isPrefixOf (c :: rest) then some ([], (c :: rest).drop mark.length)
      else (splitAtFirst? mark rest).map fun (before, after) => (c :: before, after)

/-- The set that the text in the braces of a property escape names, and whether the escape asks
for its complement. -/
def propertySet? (text : List Char) : Option (CharSet × Bool) :=
  match splitAtFirst? ['!', '='] text with
  | some (property, value) => (CharSet.valued? property value).map (·, true)
  | none =>
      match splitAtFirst? [':'] text with
      | some (property, value) => (CharSet.valued? property value).map (·, false)
      | none =>
          match splitAtFirst? ['='] text with
          | some (property, value) => (CharSet.valued? property value).map (·, false)
          | none => (CharSet.named? text).map (·, false)

/-- The rest of a property escape: one letter, or a name in braces. -/
def readProperty (mode : Mode) (negated : Bool) (text : List Char) :
    Option (Primitive × List Char) :=
  match text with
  | [] => none
  | '{' :: inner => do
      let (name, rest) ← untilBrace? inner
      let (chars, complement) ← propertySet? name
      some (.chars (mode.applyTo (negated != complement) chars), rest)
  | letter :: rest =>
      if letter = '\\' then none
      else (CharSet.named? [letter]).map fun chars => (.chars (mode.applyTo negated chars), rest)

/-- What the escape after a backslash stands for. -/
def readEscape (mode : Mode) : List Char → Option (Primitive × List Char)
  | [] => none
  | c :: rest =>
      if isMeta c then some (.literal c, rest)
      else match c with
      | 'x' => readHex 2 rest
      | 'u' => readHex 4 rest
      | 'U' => readHex 8 rest
      | 'p' => readProperty mode false rest
      | 'P' => readProperty mode true rest
      | 'd' => some (.chars CharSet.decimalDigits, rest)
      | 'D' => some (.chars CharSet.decimalDigits.compl, rest)
      | 's' => some (.chars CharSet.spaces, rest)
      | 'S' => some (.chars CharSet.spaces.compl, rest)
      | 'w' => some (.chars CharSet.wordChars, rest)
      | 'W' => some (.chars CharSet.wordChars.compl, rest)
      | 'a' => some (.literal '\x07', rest)
      | 'f' => some (.literal '\x0c', rest)
      | 't' => some (.literal '\t', rest)
      | 'n' => some (.literal '\n', rest)
      | 'r' => some (.literal '\r', rest)
      | 'v' => some (.literal '\x0b', rest)
      | 'A' => some (.assertion .startText, rest)
      | 'z' => some (.assertion .endText, rest)
      | 'b' => if rest.head? = some '{' then none else some (.assertion .wordBoundary, rest)
      | 'B' => some (.assertion .notWordBoundary, rest)
      | '<' => some (.assertion .wordStart, rest)
      | '>' => some (.assertion .wordEnd, rest)
      | c =>
          if c.toNat < 0x80 ∧ !isAsciiLetter c ∧ !isAsciiDigit c then some (.literal c, rest)
          else none

/-! ## Bracketed classes -/

/-- The operators between the parts of a class. -/
inductive ClassOperator
  | intersection
  | difference
  | symmetricDifference
deriving DecidableEq, Repr

/-- A class being read around the current one, or the left side of a pending operator. -/
inductive ClassFrame
  /-- What the enclosing class holds so far, and whether the class inside is negated. -/
  | opened (outer : CharSet) (negated : Bool)
  | pending (operator : ClassOperator) (left : CharSet)
deriving Repr

/-- Combines the two sides of an operator, each under the mode. -/
def ClassOperator.combine (mode : Mode) (operator : ClassOperator) (left right : CharSet) :
    CharSet :=
  let left := mode.applyTo false left
  let right := mode.applyTo false right
  match operator with
  | intersection => left.inter right
  | difference => left.sdiff right
  | symmetricDifference => left.symmDiff right

/-- Completes the operator that waits for its right side, if one does. -/
def settle (mode : Mode) (current : CharSet) : List ClassFrame → CharSet × List ClassFrame
  | .pending operator left :: frames => (operator.combine mode left current, frames)
  | frames => (current, frames)

/-- The literal hyphens at the start of a class, and whether there is one. -/
def skipHyphens (mode : Mode) : List Char → Bool × List Char
  | '-' :: rest => (true, (skipHyphens mode rest).2)
  | text => (false, text)

/-- Reads what follows an opening bracket: whether the class is negated, and the hyphens or the
closing bracket that stand for themselves there. -/
def readOpening (mode : Mode) (text : List Char) : Bool × CharSet × List Char :=
  let (negated, text) := match mode.skip text with
    | '^' :: rest => (true, mode.skip rest)
    | text => (false, text)
  let (hyphen, text) := skipHyphens mode text
  if hyphen then (negated, CharSet.singleton '-', text)
  else match text with
    | ']' :: rest => (negated, CharSet.singleton ']', rest)
    | text => (negated, CharSet.empty, text)

/-- An ASCII class such as `[:alpha:]` or `[:^alpha:]`; `text` is what follows the bracket. -/
def readAsciiClass (mode : Mode) (text : List Char) : Option (CharSet × List Char) := do
  let ':' :: text := text | none
  let (negated, text) := match text with
    | '^' :: rest => (true, rest)
    | text => (false, text)
  let (name, rest) ← splitAtFirst? [':'] text
  let ']' :: rest := rest | none
  let chars ← CharSet.asciiClass? name
  some (mode.applyTo negated chars, rest)

/-- One member of a class: a character, or what an escape stands for. -/
def readMember (mode : Mode) : List Char → Option (Primitive × List Char)
  | [] => none
  | '\\' :: rest => readEscape mode rest
  | c :: rest => some (.literal c, rest)

/-- A member or a range of a class. -/
def readRange (mode : Mode) (text : List Char) : Option (CharSet × List Char) := do
  let (first, text) ← readMember mode text
  let text := mode.skip text
  let alone := match text with
    | '-' :: rest => (mode.skip rest).head? = some ']' || (mode.skip rest).head? = some '-'
    | _ => true
  if alone then
    match first with
    | .literal c => some (CharSet.singleton c, text)
    | .chars chars => some (chars, text)
    | .assertion _ => none
  else
    let (last, text) ← readMember mode (mode.skip text.tail)
    match first, last with
    | .literal low, .literal high =>
        if low ≤ high then some (CharSet.range low.toNat high.toNat, text) else none
    | _, _ => none

/-- Reads the inside of a class. `current` is the part read since the last bracket or operator. -/
def readClassFrom (mode : Mode) :
    Nat → CharSet → List ClassFrame → List Char → Option (CharSet × List Char)
  | 0, _, _, _ => none
  | fuel + 1, current, frames, text =>
      let operator := fun operator rest =>
        let (left, frames) := settle mode current frames
        readClassFrom mode fuel CharSet.empty (.pending operator left :: frames) rest
      match mode.skip text with
      | [] => none
      | '[' :: rest =>
          match readAsciiClass mode rest with
          | some (chars, rest) => readClassFrom mode fuel (current.union chars) frames rest
          | none =>
              let (negated, start, rest) := readOpening mode rest
              readClassFrom mode fuel start (.opened current negated :: frames) rest
      | ']' :: rest =>
          match settle mode current frames with
          | (content, .opened outer negated :: frames) =>
              let chars := mode.applyTo negated content
              if frames.isEmpty then some (chars, rest)
              else readClassFrom mode fuel (outer.union chars) frames rest
          | _ => none
      | '&' :: '&' :: rest => operator .intersection rest
      | '-' :: '-' :: rest => operator .difference rest
      | '~' :: '~' :: rest => operator .symmetricDifference rest
      | text =>
          match readRange mode text with
          | some (chars, rest) => readClassFrom mode fuel (current.union chars) frames rest
          | none => none

/-- Reads a class; `text` is what follows its opening bracket. -/
def readClass (mode : Mode) (text : List Char) : Option (CharSet × List Char) :=
  let (negated, start, rest) := readOpening mode text
  readClassFrom mode (text.length + 1) start [.opened CharSet.empty negated] rest

end AgentClassifier.Pattern

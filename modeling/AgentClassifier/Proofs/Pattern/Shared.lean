import AgentClassifier.Pattern.Extended.Reader

/-!
The part of pattern notation that the regular and the extended reader take alike.

* `Shared.Alternatives` : syntax trees, with `Alternatives.text` as the notation of one.
* `Alternatives.regular?` : the regular expression that a tree stands for to one of the readers.
* `Alternatives.Fits` : in spaced mode no character of a tree is skipped, fillers stand only there,
  and recorded groups leave the switches as they were.
* `Shared` : the trees that fit a mode.

Both readers take the parts of a tree alike, but for a possessive repetition: the regular reader
takes its plus sign for a repetition of the repetition, which matches all that the extended one
matches.

Outside are the signs that only one reader knows; for those that the regular reader does not know
there are no literals. What both know but read differently is:
* blanks in the braces of a repetition, which the regular reader skips and the extended one does
  not, so that `a{ 2 }` is `aa` to one and a literal text to the other;
* counted repetitions of a repetition: `a{1}{2}` is `aa` to the regular reader, and to the extended
  one the text `{2}` stands behind `a`;
* switches that a recorded group does not undo at its end: they end with the group for the regular
  reader and stay in force for the extended one;
* a hyphen behind a closing bracket that stands for itself, as in `[]-a]`: it is a range to the
  extended reader only;
* in spaced mode, blanks in a class and blanks other than spaces, tabs and line ends, which only the
  regular reader skips, and blanks before the question mark of a reluctant repetition, which only
  the extended reader skips.

Left out as well are the blanks and comments that spaced mode lets both readers skip within braces
and behind an opening parenthesis.
-/

namespace AgentClassifier.Pattern

/-- What a piece of notation stands for under the switches. -/
def Primitive.regular (mode : Mode) : Primitive → Regular
  | literal c => .set (mode.charSet c)
  | chars members => .set members
  | assertion condition => .assertion condition

/-- The mode of a class in extended notation: only case counts. -/
abbrev Mode.inClass (mode : Mode) : Mode := { Mode.initial with ignoreCase := mode.ignoreCase }

namespace Shared

/-- The readers of the two notations. -/
inductive Reader
  | regular
  | extended

/-! ## Characters -/

/-- What is checked of all characters of a list holds of each. -/
theorem forall_mem_of_all {holds : Char → Prop} [DecidablePred holds] {chars : List Char}
    (checked : (chars.all fun c => decide (holds c)) = true) : ∀ c ∈ chars, holds c :=
  fun c member => of_decide_eq_true (List.all_eq_true.mp checked c member)

/-- The characters with a meaning of their own outside classes. -/
def signs : List Char := ['\\', '.', '+', '*', '?', '(', ')', '|', '[', '\x7b', '^', '$']

/-- A character that stands for itself outside classes. -/
def isPlain (c : Char) : Bool := !signs.contains c

theorem not_mem_of_isPlain {c : Char} (plain : isPlain c = true) : c ∉ signs := by
  intro sign
  rw [isPlain, List.contains_iff_mem.mpr sign] at plain
  cases plain

/-- A character that a reader may skip in spaced mode. -/
def isFiller (c : Char) : Bool := CharSet.spaces.contains c || c == '#'

/-- A character whose escape stands for a character or a set, in a class or outside. -/
def isEscape (c : Char) : Bool :=
  "afnrtvdDsSwW".toList.contains c ||
    (c.toNat < 0x80 && !isAsciiLetter c && !isAsciiDigit c && c != '<' && c != '>')

/-- A character whose escape states a condition. -/
def isCondition (c : Char) : Bool := "AzbB<>".toList.contains c

/-- The kinds of codes, by the number of their digits. -/
inductive CodeSize
  | two
  | four
  | eight

def CodeSize.letter : CodeSize → Char
  | two => 'x'
  | four => 'u'
  | eight => 'U'

def CodeSize.digits : CodeSize → Nat
  | two => 2
  | four => 4
  | eight => 8

/-- The code of a character: as many hexadecimal digits as its size says, or up to eight in
braces. -/
structure Code where
  size : CodeSize
  braced : Bool
  digits : List Char
  char : Char
  areHex : ∀ c ∈ digits, (CharSet.hexDigit? c).isSome = true
  notEmpty : digits ≠ []
  long : if braced then digits.length ≤ 8 else digits.length = size.digits
  stands : (hexValue? digits).bind charOfCode? = some char

def Code.text (code : Code) : List Char :=
  code.size.letter :: if code.braced then '\x7b' :: (code.digits ++ ['\x7d']) else code.digits

/-- The name of a property: one letter, or a text in braces. -/
inductive PropertyName
  | letter (c : Char) (notEscape : c ≠ '\\') (notBrace : c ≠ '\x7b')
  | braced (name : List Char) (inside : '\x7d' ∉ name)

def PropertyName.text : PropertyName → List Char
  | letter c _ _ => [c]
  | braced name _ => '\x7b' :: (name ++ ['\x7d'])

/-- An escape for a character or a set. -/
inductive Escape
  | sign (c : Char) (isEscape : isEscape c = true)
  | code (number : Code)
  | property (negated : Bool) (name : PropertyName)

namespace Escape

/-- What follows the backslash. -/
def text : Escape → List Char
  | sign c _ => [c]
  | code number => number.text
  | property negated name => (if negated then 'P' else 'p') :: name.text

/-- What an escape is written as in the class that an extended one is turned into. -/
def coded : Escape → List Char
  | sign c _ => if "dDsSwW".toList.contains c then ['\\', c] else
      codeText ((escapedChar? true c).getD c)
  | code number => codeText number.char
  | property negated name => '\\' :: (property negated name).text

/-- What an escape stands for, if it is known. -/
def primitive? (ignoreCase : Bool) (escape : Escape) : Option Primitive :=
  (readEscape { Mode.initial with ignoreCase } escape.text).map (·.1)

end Escape

/-! ## Classes -/

/-- A member of a class or a part of one: a character, which may be an operator or a bracket of a
class inside, or an escape. -/
inductive Sign
  | plain (c : Char) (notEscape : c ≠ '\\')
  | escape (inside : Escape)

namespace Sign

def text : Sign → List Char
  | plain c _ => [c]
  | escape inside => '\\' :: inside.text

/-- What a sign is written as in the class that an extended one is turned into. -/
def coded : Sign → List Char
  | plain c _ => [c]
  | escape inside => inside.coded

def isFiller : Sign → Bool
  | plain c _ => Shared.isFiller c
  | escape _ => false

/-- The bracket that closes a class. -/
def close : Sign := plain ']' (by decide)

end Sign

/-- Whether the brackets among the signs are in pairs, with some open ones before. -/
def balanced : Nat → List Sign → Bool
  | depth, [] => depth == 0
  | depth, .plain '[' _ :: rest => balanced (depth + 1) rest
  | 0, .plain ']' _ :: _ => false
  | depth + 1, .plain ']' _ :: rest => balanced depth rest
  | depth, _ :: rest => balanced depth rest

/-- The end of the range that a hyphen at the start of the signs opens, and the signs behind it. -/
def rangeEnd? : List Sign → Option (Sign × List Sign)
  | .plain '-' _ :: .plain '-' _ :: _ => none
  | .plain '-' _ :: .plain ']' _ :: _ => none
  | .plain '-' _ :: last :: others => some (last, others)
  | _ => none

/-- A bracketed class, with the signs up to the bracket that closes it. -/
structure Bracketed where
  /-- Whether a sign at the start negates the class. -/
  caret : Bool
  /-- Whether a closing bracket at the start stands for itself. -/
  bracket : Bool
  signs : List Sign
  balanced : balanced 0 signs = true
  notEmpty : bracket = false → signs ≠ []
  notCaret : caret = false → bracket = false → ∀ isSign, signs.head? ≠ some (.plain '^' isSign)
  noRange : bracket = true → rangeEnd? (signs ++ [Sign.close]) = none

namespace Bracketed

variable (bracketed : Bracketed)

/-- The signs of the class and the bracket that closes it. -/
def closed : List Sign := bracketed.signs ++ [Sign.close]

/-- What follows the opening bracket. -/
def text : List Char :=
  (if bracketed.caret then ['^'] else []) ++
    ((if bracketed.bracket then [']'] else []) ++ bracketed.closed.flatMap Sign.text)

def coded : List Char :=
  (if bracketed.caret then ['^'] else []) ++
    ((if bracketed.bracket then codeText ']' else []) ++ bracketed.closed.flatMap Sign.coded)

end Bracketed

/-! ## Repetitions -/

/-- A number of iterations. -/
structure Numeral where
  digits : List Char
  notEmpty : digits ≠ []
  areDigits : digits.all isAsciiDigit = true
  small : decimalValue digits ≤ maxIterations

def Numeral.value (numeral : Numeral) : Nat := decimalValue numeral.digits

inductive Bounds
  | optional
  | any
  | atLeastOne
  | exactly (count : Numeral)
  | atLeast (least : Numeral)
  | between (least most : Numeral) (ordered : least.value ≤ most.value)

namespace Bounds

def text : Bounds → List Char
  | optional => ['?']
  | any => ['*']
  | atLeastOne => ['+']
  | exactly count => '\x7b' :: (count.digits ++ ['\x7d'])
  | atLeast least => '\x7b' :: (least.digits ++ [',', '\x7d'])
  | between least most _ => '\x7b' :: (least.digits ++ ',' :: (most.digits ++ ['\x7d']))

def low : Bounds → Nat
  | optional | any => 0
  | atLeastOne => 1
  | exactly count => count.value
  | atLeast least | between least _ _ => least.value

def high : Bounds → Option Nat
  | optional => some 1
  | any | atLeastOne | atLeast _ => none
  | exactly count => some count.value
  | between _ most _ => some most.value

theorem ordered (bounds : Bounds) : ∀ most ∈ bounds.high, bounds.low ≤ most := by
  intro most isHigh
  cases bounds with
  | any | atLeastOne | atLeast => cases isHigh
  | optional | exactly =>
      obtain rfl := Option.some.inj isHigh
      simp [low]
  | between least top ordered =>
      obtain rfl := Option.some.inj isHigh
      exact ordered

end Bounds

/-- A repetition; `reluctant` is a question mark behind the bounds, and `possessive` a plus sign
behind that. -/
structure Quantifier where
  bounds : Bounds
  reluctant : Bool
  possessive : Bool

/-- What follows the bounds. -/
def Quantifier.marks (quantifier : Quantifier) : List Char :=
  (if quantifier.reluctant then ['?'] else []) ++ if quantifier.possessive then ['+'] else []

def Quantifier.text (quantifier : Quantifier) : List Char :=
  quantifier.bounds.text ++ quantifier.marks

/-- The notation of a repetition, if there is one. -/
def repetitionText : Option Quantifier → List Char
  | some quantifier => quantifier.text
  | none => []

/-- What an expression with a repetition stands for; for the plus sign of a possessive one the
regular reader repeats it once more. -/
def repeated (reader : Reader) (mode : Mode) : Option Quantifier → Regular → Regular
  | some ⟨bounds, reluctant, possessive⟩, body =>
      let once := Regular.times bounds.low bounds.high (reluctant == mode.swapGreed) body
      match reader, possessive with
      | .regular, true => Regular.times 1 none (false == mode.swapGreed) once
      | _, _ => once
  | none, body => body

/-! ## Switches -/

/-- A letter of a switch. -/
inductive Switch
  | ignoreCase
  | multiLine
  | dotAll
  | swapGreed
  | spaced
  /-- In force from the start, and no reader lets it be turned off. -/
  | unicode

def Switch.letter : Switch → Char
  | ignoreCase => 'i'
  | multiLine => 'm'
  | dotAll => 's'
  | swapGreed => 'U'
  | spaced => 'x'
  | unicode => 'u'

/-- The letters of the switches. -/
def switchLetters : List Char := ['i', 'm', 's', 'U', 'x', 'u']

def Switch.apply (value : Bool) (mode : Mode) : Switch → Mode
  | ignoreCase => { mode with ignoreCase := value }
  | multiLine => { mode with multiLine := value }
  | dotAll => { mode with dotAll := value }
  | swapGreed => { mode with swapGreed := value }
  | spaced => { mode with spaced := value }
  | unicode => mode

/-- The switches that are turned on, and those that are turned off. -/
structure Switches where
  on : List Switch
  off : List Switch

namespace Switches

variable (switches : Switches)

def text : List Char :=
  switches.on.map Switch.letter ++
    if switches.off.isEmpty then [] else '-' :: switches.off.map Switch.letter

def apply (mode : Mode) : Mode :=
  switches.off.foldl (Switch.apply false) (switches.on.foldl (Switch.apply true) mode)

end Switches

/-! ## Syntax trees -/

/-- The name of a recorded group. -/
structure GroupName where
  /-- Whether the letter P stands before it. -/
  marked : Bool
  chars : List Char
  starts : ∀ c ∈ chars.head?, isAsciiDigit c = false
  notEmpty : chars ≠ []
  areNameChars : ∀ c ∈ chars, isNameChar c = true

def GroupName.text (name : GroupName) : List Char :=
  '?' :: ((if name.marked then ['P', '<'] else ['<']) ++ (name.chars ++ ['>']))

/-- The name of a group, if it has one. -/
def nameText : Option GroupName → List Char
  | some name => name.text
  | none => []

/-- What spaced mode skips: a blank, or a comment up to the end of its line. -/
inductive Filler
  | blank (c : Char) (isBlank : c ∈ [' ', '\t', '\n', '\r'])
  | comment (line : List Char) (inside : '\n' ∉ line)

def Filler.text : Filler → List Char
  | blank c _ => [c]
  | comment line _ => '#' :: (line ++ ['\n'])

mutual

/-- What a repetition can apply to. -/
inductive Atom
  | plain (c : Char) (isPlain : isPlain c = true)
  | escape (inside : Escape)
  | condition (c : Char) (isCondition : isCondition c = true)
  | any
  | start
  | stop
  | bracketed (inside : Bracketed)
  /-- A recorded group. -/
  | group (name : Option GroupName) (body : Alternatives)
  /-- A group with switches of its own, or with none. -/
  | scoped (switches : Switches) (body : Alternatives)

/-- Atoms with their repetitions, switches and fillers, one after the other. -/
inductive Sequence
  | nil
  | piece (atom : Atom) (gap : List Filler) (quantifier : Option Quantifier) (rest : Sequence)
  | switch (switches : Switches) (rest : Sequence)
  | filler (filler : Filler) (rest : Sequence)

/-- Sequences with bars between them. -/
inductive Alternatives
  | last (sequence : Sequence)
  | more (sequence : Sequence) (rest : Alternatives)

end

mutual

def Atom.text : Atom → List Char
  | .plain c _ => [c]
  | .escape inside => '\\' :: inside.text
  | .condition c _ => ['\\', c]
  | .any => ['.']
  | .start => ['^']
  | .stop => ['$']
  | .bracketed inside => '[' :: inside.text
  | .group name body => '(' :: (nameText name ++ (body.text ++ [')']))
  | .scoped switches body => '(' :: '?' :: (switches.text ++ ':' :: (body.text ++ [')']))

def Sequence.text : Sequence → List Char
  | .nil => []
  | .piece atom gap quantifier rest =>
      atom.text ++ (gap.flatMap Filler.text ++ (repetitionText quantifier ++ rest.text))
  | .switch switches rest => '(' :: '?' :: (switches.text ++ ')' :: rest.text)
  | .filler filler rest => filler.text ++ rest.text

/-- The notation of a tree. -/
def Alternatives.text : Alternatives → List Char
  | .last sequence => sequence.text
  | .more sequence rest => sequence.text ++ '|' :: rest.text

end

/-! ## Meaning -/

/-- The switches behind a sequence. -/
def Sequence.modeAfter : Sequence → Mode → Mode
  | .nil, mode => mode
  | .piece _ _ _ rest, mode => rest.modeAfter mode
  | .switch switches rest, mode => rest.modeAfter (switches.apply mode)
  | .filler _ rest, mode => rest.modeAfter mode

def Alternatives.modeAfter : Alternatives → Mode → Mode
  | .last sequence, mode => sequence.modeAfter mode
  | .more sequence rest, mode => rest.modeAfter (sequence.modeAfter mode)

mutual

/-- The number of recorded groups. -/
def Atom.groups : Atom → Nat
  | .plain .. | .escape .. | .condition .. | .any | .start | .stop | .bracketed _ => 0
  | .group _ body => body.groups + 1
  | .scoped _ body => body.groups

def Sequence.groups : Sequence → Nat
  | .nil => 0
  | .piece atom _ _ rest => atom.groups + rest.groups
  | .switch _ rest | .filler _ rest => rest.groups

def Alternatives.groups : Alternatives → Nat
  | .last sequence => sequence.groups
  | .more sequence rest => sequence.groups + rest.groups

end

/-- A choice among branches. -/
def joined : List Regular → Regular
  | [branch] => branch
  | branches => Regular.oneOf branches

mutual

/-- What an atom stands for to a reader, if its escapes and classes can be read; `count` is the
number of the groups before it. -/
def Atom.regular? (reader : Reader) (mode : Mode) (count : Nat) : Atom → Option Regular
  | .plain c _ => some (.set (mode.charSet c))
  | .escape inside => (inside.primitive? mode.ignoreCase).map (Primitive.regular mode)
  | .condition c _ => (readEscape mode [c]).map fun read => read.1.regular mode
  | .any => some (.set (if mode.dotAll then CharSet.all else CharSet.notLineFeed))
  | .start => some (.assertion (if mode.multiLine then .startLine else .startText))
  | .stop => some (.assertion (if mode.multiLine then .endLine else .endText))
  | .bracketed inside =>
      match readClass mode.inClass inside.coded with
      | some (chars, []) => some (.set chars)
      | _ => none
  | .group _ body =>
      (body.branches? reader mode (count + 1)).map fun branches =>
        .group (count + 1) (joined branches)
  | .scoped switches body => (body.branches? reader (switches.apply mode) count).map joined

/-- What the pieces of a sequence stand for. -/
def Sequence.pieces? (reader : Reader) (mode : Mode) (count : Nat) :
    Sequence → Option (List Regular)
  | .nil => some []
  | .piece atom _ quantifier rest =>
      match atom.regular? reader mode count, rest.pieces? reader mode (count + atom.groups) with
      | some piece, some pieces => some (repeated reader mode quantifier piece :: pieces)
      | _, _ => none
  | .switch switches rest => rest.pieces? reader (switches.apply mode) count
  | .filler _ rest => rest.pieces? reader mode count

/-- What the sequences between the bars stand for. -/
def Alternatives.branches? (reader : Reader) (mode : Mode) (count : Nat) :
    Alternatives → Option (List Regular)
  | .last sequence =>
      (sequence.pieces? reader mode count).map fun pieces => [Regular.concat pieces]
  | .more sequence rest =>
      match sequence.pieces? reader mode count,
        rest.branches? reader (sequence.modeAfter mode) (count + sequence.groups) with
      | some pieces, some branches => some (Regular.concat pieces :: branches)
      | _, _ => none

end

/-- What a tree stands for to a reader, if its escapes and classes can be read. -/
def Alternatives.regular? (reader : Reader) (mode : Mode) (tree : Alternatives) : Option Regular :=
  (tree.branches? reader mode 0).map joined

mutual

/-- In spaced mode no character is one that a reader may skip. Recorded groups leave the switches
as they were. -/
def Atom.Fits (mode : Mode) : Atom → Prop
  | .plain c _ => mode.spaced = true → isFiller c = false
  | .bracketed inside => mode.spaced = true → ∀ sign ∈ inside.signs, sign.isFiller = false
  | .group _ body => body.modeAfter mode = mode ∧ body.Fits mode
  | .scoped switches body => body.Fits (switches.apply mode)
  | .escape .. | .condition .. | .any | .start | .stop => True

/-- Fillers stand in spaced mode only. -/
def Sequence.Fits (mode : Mode) : Sequence → Prop
  | .nil => True
  | .piece atom gap _ rest => atom.Fits mode ∧ (gap ≠ [] → mode.spaced = true) ∧ rest.Fits mode
  | .switch switches rest => rest.Fits (switches.apply mode)
  | .filler _ rest => mode.spaced = true ∧ rest.Fits mode

def Alternatives.Fits (mode : Mode) : Alternatives → Prop
  | .last sequence => sequence.Fits mode
  | .more sequence rest => sequence.Fits mode ∧ rest.Fits (sequence.modeAfter mode)

end

end Shared

/-- A tree that fits the mode with nothing but case ignored or not. -/
structure Shared (ignoreCase : Bool) where
  tree : Shared.Alternatives
  fits : tree.Fits { Mode.initial with ignoreCase }

namespace Shared

/-- The notation of the tree. -/
def text {ignoreCase : Bool} (shared : Shared ignoreCase) : List Char := shared.tree.text

end Shared

end AgentClassifier.Pattern

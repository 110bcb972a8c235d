import AgentClassifier.Pattern.Regular.Reader

/-!
The literals that the matches of an expression can start with.

* `Literal` : a text that starts a match; an exact one is the whole match.
* `Beginnings` : a finite choice of literals, or no restriction.
* `Extraction` : what an expression adds to beginnings: alone, behind others and beside others.
* `Regular.beginnings` : the literals that every match starts with one of.
* `leadingLiterals` : those of a pattern in regular notation, if they are few and long enough.

The bounds keep the choice small: a set of more than ten characters restricts nothing, a
repetition counts ten times, a literal is cut at a hundred bytes, and a choice has at most two
hundred and fifty literals.
-/

namespace AgentClassifier.Pattern

/-- A text that can start a match: characters, and the first bytes of one more if the text was cut
inside it. -/
structure Literal where
  chars : List Char
  cut : List UInt8
  /-- Whether the text is the whole match. -/
  exact : Bool
deriving DecidableEq, Repr

namespace Literal

/-- The characters as a whole match. -/
def ofChars (chars : List Char) : Literal := ⟨chars, [], true⟩

/-- The literal without characters, which starts every match. -/
def unit : Literal := ofChars []

/-- The number of bytes in UTF-8. -/
def byteSize (literal : Literal) : Nat :=
  literal.chars.foldl (fun total c => total + c.utf8Size) literal.cut.length

/-- The first `limit` bytes of characters and of the bytes behind them. -/
def firstBytes : List Char → List UInt8 → Nat → List Char × List UInt8
  | [], cut, limit => ([], cut.take limit)
  | c :: rest, cut, limit =>
      if c.utf8Size ≤ limit then
        let (kept, cut) := firstBytes rest cut (limit - c.utf8Size)
        (c :: kept, cut)
      else ([], (String.utf8EncodeChar c).take limit)

/-- Cuts the literal after `limit` bytes. -/
def keepFirst (literal : Literal) (limit : Nat) : Literal :=
  if literal.byteSize ≤ limit then literal
  else
    let (chars, cut) := firstBytes literal.chars literal.cut limit
    ⟨chars, cut, false⟩

def makeInexact (literal : Literal) : Literal := { literal with exact := false }

/-- The literal with another one after it; only an exact one is extended. -/
def append (first second : Literal) : Literal :=
  if first.exact then ⟨first.chars ++ second.chars, second.cut, second.exact⟩ else first

end Literal

/-- The literals of which every match starts with one, best first; `none` restricts nothing. -/
abbrev Beginnings := Option (List Literal)

namespace Beginnings

def maxLiterals : Nat := 250

def maxLiteralBytes : Nat := 100

def maxClassSize : Nat := 10

def maxUnrolled : Nat := 10

/-- The choice of the one literal without characters. -/
def unit : Beginnings := some [Literal.unit]

/-- The one literal of a text. -/
def ofWord (chars : List Char) : Beginnings :=
  some [(Literal.ofChars chars).keepFirst maxLiteralBytes]

/-- The members of a set of characters, if they are few. -/
def ofSet (chars : CharSet) : Beginnings :=
  if maxClassSize < chars.size then none
  else some (chars.toList.map fun c => Literal.ofChars [c])

/-- Joins neighbours of the same text; the joined literal is exact if both were. -/
def dedup : List Literal → List Literal
  | [] => []
  | literal :: rest =>
      match dedup rest with
      | [] => [literal]
      | next :: others =>
          if literal.chars = next.chars ∧ literal.cut = next.cut then
            { literal with exact := literal.exact && next.exact } :: others
          else literal :: next :: others

/-- Whether no literal can be extended. -/
def isInexact (beginnings : Beginnings) : Bool :=
  match beginnings with
  | none => true
  | some literals => literals.all fun literal => !literal.exact

def makeInexact (beginnings : Beginnings) : Beginnings :=
  beginnings.map fun literals => literals.map Literal.makeInexact

/-- Cuts every literal after `limit` bytes. -/
def keepFirst (beginnings : Beginnings) (limit : Nat) : Beginnings :=
  beginnings.map fun literals => literals.map fun literal => literal.keepFirst limit

/-- The beginnings of one match followed by another. -/
def followedBy (first second : Beginnings) : Beginnings :=
  match first, second with
  | none, _ => none
  | some firsts, none =>
      if firsts.any fun literal => literal.byteSize == 0 then none
      else some (firsts.map Literal.makeInexact)
  | some firsts, some seconds =>
      if maxLiterals < firsts.length * seconds.length then
        if firsts.any fun literal => literal.byteSize == 0 then none
        else some (firsts.map Literal.makeInexact)
      else
        let products := firsts.flatMap fun literal =>
          if literal.exact then seconds.map literal.append else [literal]
        keepFirst (some (dedup products)) maxLiteralBytes

/-- The beginnings of one match and a part behind it. What cannot be extended stays. -/
def extend (done next : Beginnings) : Beginnings :=
  if done.isInexact then done else done.followedBy next

/-- The beginnings of either of two matches. When they are too many, the literals are cut to four
bytes first. -/
def orElse (first second : Beginnings) : Beginnings :=
  match first, second with
  | some firsts, some seconds =>
      if firsts.length + seconds.length ≤ maxLiterals then some (dedup (firsts ++ seconds))
      else
        let shorten := fun (literals : List Literal) =>
          dedup (literals.map fun literal => literal.keepFirst 4)
        let firsts := shorten firsts
        let seconds := shorten seconds
        if firsts.length + seconds.length ≤ maxLiterals then some (dedup (firsts ++ seconds))
        else none
  | _, _ => none

/-- The beginnings of `count` matches one after the other. -/
def power (beginnings : Beginnings) : Nat → Beginnings → Beginnings
  | 0, done => done
  | count + 1, done =>
      if isInexact done then done else power beginnings count (followedBy done beginnings)

/-- The beginnings of a repetition from those of its body. -/
def repeated (once : Beginnings) (low : Nat) (high : Option Nat) (greedy : Bool) : Beginnings :=
  if low = 0 then
    let further := if high = some 1 then once else once.makeInexact
    if greedy then further.orElse unit else unit.orElse further
  else
    let unrolled := once.power (min low maxUnrolled) unit
    if high = some low ∧ low ≤ maxUnrolled then unrolled else unrolled.makeInexact

end Beginnings

/-- What a sequence has led with so far: the beginnings of the pieces before, and the single
characters of the current one, the latest first. -/
structure Lead where
  done : Beginnings
  word : List Char

namespace Lead

/-- The start of a sequence. -/
def start : Lead := ⟨Beginnings.unit, []⟩

/-- The beginnings of all pieces, the current one included. -/
def beginnings (lead : Lead) : Beginnings :=
  if lead.word.isEmpty then lead.done
  else lead.done.extend (Beginnings.ofWord lead.word.reverse)

/-- A single character joins the current piece. -/
def push (lead : Lead) (c : Char) : Lead :=
  { lead with word := c :: lead.word }

/-- Another piece follows. -/
def behind (lead : Lead) (next : Beginnings) : Lead :=
  ⟨lead.beginnings.extend next, []⟩

end Lead

/-- What an expression makes of beginnings. -/
structure Extraction where
  /-- Its own beginnings, found when they are asked for. -/
  alone : Unit → Beginnings
  /-- Behind the earlier parts of a sequence. -/
  behind : Lead → Lead
  /-- After the earlier alternatives of a choice. -/
  beside : Beginnings → Beginnings

/-- An expression that is a piece of its own. -/
def Extraction.ofBeginnings (alone : Unit → Beginnings) : Extraction where
  alone := alone
  behind lead := lead.behind (alone ())
  beside done := done.orElse (alone ())

namespace Regular

/-- The beginnings of an expression in its places. -/
def extraction : Regular → Extraction
  | empty => { Extraction.ofBeginnings fun _ => Beginnings.unit with behind := id }
  | set chars =>
      match chars.single? with
      | some c => { Extraction.ofBeginnings fun _ => Beginnings.ofWord [c] with
          behind := fun lead => lead.push c }
      | none => Extraction.ofBeginnings fun _ => Beginnings.ofSet chars
  | assertion _ => Extraction.ofBeginnings fun _ => Beginnings.unit
  | group _ body => Extraction.ofBeginnings body.extraction.alone
  | seq first second =>
      let first := first.extraction
      let second := second.extraction
      let behind := fun lead => second.behind (first.behind lead)
      { Extraction.ofBeginnings fun _ => (behind Lead.start).beginnings with behind }
  | alt first second =>
      let first := first.extraction
      let second := second.extraction
      let beside := fun done => second.beside (first.beside done)
      { Extraction.ofBeginnings fun _ => beside (some []) with beside }
  | repetition low high greedy body =>
      let body := body.extraction
      Extraction.ofBeginnings fun _ => (body.alone ()).repeated low high greedy

/-- The literals of which every match of the expression starts with one. -/
def beginnings (expression : Regular) : Beginnings := expression.extraction.alone ()

end Regular

/-- The literals that the matches of a pattern start with, read as regular notation. The list is
empty when the pattern is not in that notation, when its beginnings are not restricted, or when
one of them has fewer than `minBytes` bytes or ends inside a character. -/
def leadingLiterals (pattern : List Char) (ignoreCase : Bool) (minBytes : Nat) :
    List (List Char) :=
  match (Regular.read? ignoreCase pattern).bind Regular.beginnings with
  | none => []
  | some literals =>
      if literals.all fun literal => literal.cut.isEmpty && minBytes ≤ literal.byteSize then
        literals.map Literal.chars
      else []

end AgentClassifier.Pattern

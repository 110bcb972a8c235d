/-!
Sets of characters as ascending lists of code point ranges.

* `CharSet` : the ranges; `CharSet.Ascending` says that they are separated and in order.
* `CharSet.contains` : membership, stopping at the first range above the character.
* `CharSet.union`, `inter`, `sdiff`, `symmDiff`, `compl` : the set algebra.
* `CharSet.ofText` : reads the written form `41-5A 61-7A AA` used by the property tables.
-/

namespace AgentClassifier

/-- The largest code point. -/
def maxCodePoint : Nat := 0x10FFFF

/-- A set of characters: inclusive code point ranges in ascending order. -/
structure CharSet where
  ranges : List (Nat × Nat)
deriving DecidableEq, Repr, Inhabited

namespace CharSet

/-- Every range is non-empty, and between two neighbours at least one code point is missing. -/
def Ascending : List (Nat × Nat) → Prop
  | [] => True
  | [(low, high)] => low ≤ high
  | (low, high) :: (nextLow, nextHigh) :: rest =>
      low ≤ high ∧ high + 1 < nextLow ∧ Ascending ((nextLow, nextHigh) :: rest)

/-! ## Membership -/

/-- Looks a code point up in ascending ranges. -/
def inRanges (code : Nat) : List (Nat × Nat) → Bool
  | [] => false
  | (low, high) :: rest =>
      if code < low then false
      else if code ≤ high then true
      else inRanges code rest

/-- Whether the set holds a code point. -/
def containsCode (chars : CharSet) (code : Nat) : Bool :=
  inRanges code chars.ranges

/-- Whether the set holds a character. -/
def contains (chars : CharSet) (c : Char) : Bool :=
  chars.containsCode c.toNat

/-- The set that holds nothing. -/
def empty : CharSet := ⟨[]⟩

/-- The set of every character. -/
def all : CharSet := ⟨[(0, maxCodePoint)]⟩

/-- The set of one character. -/
def singleton (c : Char) : CharSet := ⟨[(c.toNat, c.toNat)]⟩

/-- The set of the code points from `low` to `high`, both included. -/
def range (low high : Nat) : CharSet :=
  if low ≤ high then ⟨[(low, high)]⟩ else empty

/-- Every character but the line feed. -/
def notLineFeed : CharSet := ⟨[(0, 9), (11, maxCodePoint)]⟩

/-- The only member of a set of one character. -/
def single? (chars : CharSet) : Option Char :=
  match chars.ranges with
  | [(low, high)] => if low = high then some (Char.ofNat low) else none
  | _ => none

/-- Whether every member is an ASCII character. -/
def isAscii (chars : CharSet) : Bool :=
  chars.ranges.all fun range => range.2 < 0x80

/-! ## Set algebra -/

/-- Inserts a range into ascending ranges, joining the ranges that it meets or touches. -/
def insertRange (low high : Nat) : List (Nat × Nat) → List (Nat × Nat)
  | [] => [(low, high)]
  | (headLow, headHigh) :: rest =>
      if high + 1 < headLow then (low, high) :: (headLow, headHigh) :: rest
      else if headHigh + 1 < low then (headLow, headHigh) :: insertRange low high rest
      else insertRange (min low headLow) (max high headHigh) rest

/-- The set of ranges given in any order; a range whose ends are swapped holds nothing. -/
def ofRanges (ranges : List (Nat × Nat)) : CharSet :=
  ⟨ranges.foldl (fun acc range =>
    if range.1 ≤ range.2 then insertRange range.1 range.2 acc else acc) []⟩

def insert (chars : CharSet) (code : Nat) : CharSet :=
  ⟨insertRange code code chars.ranges⟩

def union (left right : CharSet) : CharSet :=
  ⟨right.ranges.foldl (fun acc range => insertRange range.1 range.2 acc) left.ranges⟩

/-- The code point of the character behind one; surrogates are no characters. -/
def nextCode (code : Nat) : Nat := if code = 0xD7FF then 0xE000 else code + 1

/-- The code point of the character before one. -/
def previousCode (code : Nat) : Nat := if code = 0xE000 then 0xD7FF else code - 1

/-- The gaps between ascending ranges, from `start` up to the largest code point. -/
def gaps (start : Nat) : List (Nat × Nat) → List (Nat × Nat)
  | [] => if start ≤ maxCodePoint then [(start, maxCodePoint)] else []
  | (low, high) :: rest =>
      if start < low then (start, previousCode low) :: gaps (nextCode high) rest
      else gaps (nextCode high) rest

/-- The characters outside the set. -/
def compl (chars : CharSet) : CharSet := ⟨gaps 0 chars.ranges⟩

def inter (left right : CharSet) : CharSet :=
  (left.compl.union right.compl).compl

/-- The members of `left` that `right` does not hold. -/
def sdiff (left right : CharSet) : CharSet := left.inter right.compl

/-- The characters that exactly one of the two sets holds. -/
def symmDiff (left right : CharSet) : CharSet :=
  (left.union right).sdiff (left.inter right)

/-- The number of code points in the set. -/
def size (chars : CharSet) : Nat :=
  chars.ranges.foldl (fun total range => total + (range.2 + 1 - range.1)) 0

/-- The members in ascending order. -/
def toList (chars : CharSet) : List Char :=
  chars.ranges.flatMap fun range =>
    (List.range (range.2 + 1 - range.1)).map fun offset => Char.ofNat (range.1 + offset)

/-! ## Written form -/

/-- The value of a hexadecimal digit. -/
def hexDigit? (c : Char) : Option Nat :=
  if '0' ≤ c ∧ c ≤ '9' then some (c.toNat - '0'.toNat)
  else if 'A' ≤ c ∧ c ≤ 'F' then some (c.toNat - 'A'.toNat + 10)
  else if 'a' ≤ c ∧ c ≤ 'f' then some (c.toNat - 'a'.toNat + 10)
  else none

/-- Reads hexadecimal ranges parted by blanks or line ends; a number alone is a range of one code point.
`low` is the number before a hyphen, `value` the number being read. -/
def readRanges : List Char → Option Nat → Option Nat → List (Nat × Nat) → List (Nat × Nat)
  | [], low, value, done =>
      match value with
      | some high => ((low.getD high, high) :: done).reverse
      | none => done.reverse
  | c :: rest, low, value, done =>
      match hexDigit? c with
      | some digit => readRanges rest low (some (value.getD 0 * 16 + digit)) done
      | none =>
          if c = '-' then readRanges rest value none done
          else match value with
            | some high => readRanges rest none none ((low.getD high, high) :: done)
            | none => readRanges rest none none done

/-- The set written as ascending hexadecimal ranges, such as `41-5A 61-7A AA`. -/
def ofText (text : String) : CharSet := ⟨readRanges text.toList none none []⟩

end CharSet

/-- A set of characters with the names it is looked up by. -/
structure NamedCharSet where
  /-- The accepted names, in lower case and without blanks, hyphens and underscores. -/
  names : List String
  /-- The members, in the written form of `CharSet.ofText`. -/
  text : String
deriving Repr

/-- The first set of the table that has the name. -/
def NamedCharSet.find? (table : List NamedCharSet) (name : String) : Option CharSet :=
  (table.find? fun entry => entry.names.contains name).map fun entry => CharSet.ofText entry.text

end AgentClassifier

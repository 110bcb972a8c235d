import AgentClassifier.Binary64

/-!
Numbers as they are written with decimal digits.

* `natOfDigits?` : whole numbers to a base.
* `Decimal` : a number with a sign, a point and an exponent; `Decimal.ofText?` reads one.
* `Decimal.toBinary64` : the size of the number in binary floating point.
-/

namespace AgentClassifier

/-! ## Whole numbers -/

/-- The value of a digit; letters of both cases follow after nine. -/
def digitValue (c : Char) : Nat :=
  if c.isDigit then c.toNat - '0'.toNat
  else if c.isLower then c.toNat - 'a'.toNat + 10
  else c.toNat - 'A'.toNat + 10

/-- Whether the character is a digit to the base. -/
def isDigitOf (base : Nat) (c : Char) : Bool := c.isAlphanum && digitValue c < base

/-- The number that digits write. -/
def natOfDigits (base : Nat) (digits : List Char) : Nat :=
  digits.foldl (fun value digit => value * base + digitValue digit) 0

/-- The number that a text of digits writes; there has to be one. -/
def natOfDigits? (base : Nat) (digits : List Char) : Option Nat :=
  if !digits.isEmpty && digits.all (isDigitOf base) then some (natOfDigits base digits) else none

/-! ## Numbers with a point -/

/-- The number `±digits · 10 ^ exponent`. -/
structure Decimal where
  negative : Bool
  digits : Nat
  exponent : Int
deriving DecidableEq, Repr, Inhabited

namespace Decimal

/-- Reads an exponent with its letter, if there is one, up to the end of the text. -/
def exponentOf? : List Char → Option Int
  | [] => some 0
  | letter :: rest =>
      if letter == 'e' || letter == 'E' then
        match rest with
        | '-' :: digits => (natOfDigits? 10 digits).map fun value => -(value : Int)
        | '+' :: digits => (natOfDigits? 10 digits).map fun value => (value : Int)
        | digits => (natOfDigits? 10 digits).map fun value => (value : Int)
      else none

/-- Reads digits, a point and digits, and an exponent. There has to be a digit before or after
the point; the point and the exponent may be missing. -/
def magnitude? (negative : Bool) (text : List Char) : Option Decimal :=
  let whole := text.takeWhile Char.isDigit
  let rest := text.drop whole.length
  let (fraction, rest) := match rest with
    | '.' :: rest =>
        let fraction := rest.takeWhile Char.isDigit
        (fraction, rest.drop fraction.length)
    | rest => ([], rest)
  (natOfDigits? 10 (whole ++ fraction)).bind fun digits =>
    (exponentOf? rest).map fun exponent => ⟨negative, digits, exponent - fraction.length⟩

/-- Reads a number that may have a sign. -/
def ofText? : List Char → Option Decimal
  | '-' :: text => magnitude? true text
  | '+' :: text => magnitude? false text
  | text => magnitude? false text

/-- The least power of ten above the size of a number other than zero. -/
def order (decimal : Decimal) : Int := (Nat.toDigits 10 decimal.digits).length + decimal.exponent

/-- The size of the number in binary floating point. -/
def toBinary64 (decimal : Decimal) : Nat :=
  if decimal.digits = 0 ∨ decimal.order < -330 then 0
  else
    Binary64.nearest (decimal.digits * Nat.pow 10 decimal.exponent.toNat)
      (Nat.pow 10 (-decimal.exponent).toNat)

end Decimal

end AgentClassifier

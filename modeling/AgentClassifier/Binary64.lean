/-!
Non-negative numbers of binary floating point with 64 bits, counted in their smallest unit.

* `roundHalfEven` : a quotient rounded to a whole number.
* `Binary64.nearest` : a quotient rounded to 53 significant bits, where no bit is below the unit.
-/

namespace AgentClassifier

/-- The whole number next to a quotient; of two that are as near, the even one. -/
def roundHalfEven (num den : Nat) : Nat :=
  let low := num / den
  let rest := num % den
  if 2 * rest < den ∨ (2 * rest = den ∧ low % 2 = 0) then low else low + 1

namespace Binary64

/-- How many units are one: the smallest number above zero is the inverse of this one. -/
def one : Nat := Nat.pow 2 1074

/-- The number next to a quotient, in units; of two that are as near, the one whose last bit is
zero. Numbers may be arbitrarily large. -/
def nearest (num den : Nat) : Nat :=
  let spacing := Nat.pow 2 (Nat.log2 (num * one / den) - 52)
  roundHalfEven (num * one) (den * spacing) * spacing

end Binary64

end AgentClassifier

/-
This file reads numerals: the value of one digit, and the value of a list of
digits in a base, most significant digit first.
-/

namespace Taskyard.Text

/-- The value of a digit: `0` to `9`, then the letters in either case. -/
def digitValue? (char : Char) : Option Nat :=
  if char.isDigit then some (char.toNat - '0'.toNat)
  else if 'a' ≤ char ∧ char ≤ 'z' then some (char.toNat - 'a'.toNat + 10)
  else if 'A' ≤ char ∧ char ≤ 'Z' then some (char.toNat - 'A'.toNat + 10)
  else none

/-- Whether a character is a digit of the base. -/
def isDigitOf (base : Nat) (char : Char) : Bool :=
  match digitValue? char with
  | some value => value < base
  | none => false

/-- The value of digits in a base, most significant first. -/
def numeralValue (base : Nat) (digits : List Char) : Nat :=
  digits.foldl (fun value digit => value * base + (digitValue? digit).getD 0) 0

/-- The bound of the 64-bit words: the first number that does not fit. -/
def wordBound : Nat := Nat.pow 2 64

end Taskyard.Text

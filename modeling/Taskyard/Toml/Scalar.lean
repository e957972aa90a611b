/-
This file reads the values of a TOML document that are written without quotes:
truth values, integers in four bases, floats, and dates and times.
-/

import Taskyard.Text.Numeral
import Taskyard.Toml.Value

namespace Taskyard.Toml

open Text

/-! ### Integers -/

/-- Digits of a base without the single underscores that may stand between two of them. -/
def ungroup (base : Nat) : List Char → Option (List Char)
  | [] => none
  | [digit] => if isDigitOf base digit then some [digit] else none
  | digit :: '_' :: rest =>
    if isDigitOf base digit then (ungroup base rest).map (digit :: ·) else none
  | digit :: rest => if isDigitOf base digit then (ungroup base rest).map (digit :: ·) else none

/-- Decimal digits that do not start with a zero, unless the zero is all there is. -/
def wholeDigits? (word : List Char) : Option (List Char) :=
  match word, ungroup 10 word with
  | _, some ['0'] => some ['0']
  | '0' :: _, _ => none
  | _, digits => digits

/-- A sign and what follows it: whether the sign is a minus. -/
def signed : List Char → Bool × List Char
  | '+' :: rest => (false, rest)
  | '-' :: rest => (true, rest)
  | rest => (false, rest)

/-- An integer: decimal with an optional sign, or in base 16, 8 or 2 without one. -/
def integer? : List Char → Option Int
  | '0' :: 'x' :: digits => (ungroup 16 digits).map fun digits => (numeralValue 16 digits : Int)
  | '0' :: 'o' :: digits => (ungroup 8 digits).map fun digits => (numeralValue 8 digits : Int)
  | '0' :: 'b' :: digits => (ungroup 2 digits).map fun digits => (numeralValue 2 digits : Int)
  | word =>
    let (negative, digits) := signed word
    (wholeDigits? digits).map fun digits =>
      let number : Int := numeralValue 10 digits
      if negative then -number else number

/-! ### Floats -/

/-- The first number that a double rounds to infinity. -/
def floatBound : Nat := Nat.pow 2 1024 - Nat.pow 2 970

/-- Whether `digits · 10 ^ exponent` is below the bound of the doubles. Only a number whose leading
digit stands in the 309th place needs the exact comparison. -/
def belowFloatBound (digits : Nat) (exponent : Int) : Bool :=
  if digits = 0 then true
  else
    let places : Int := (Nat.toDigits 10 digits).length + exponent
    if places < 309 then true
    else if 309 < places then false
    else if 0 ≤ exponent then digits * Nat.pow 10 exponent.toNat < floatBound
    else digits < floatBound * Nat.pow 10 (-exponent).toNat

/-- An exponent: nothing, or the letter, an optional sign and digits. -/
def exponent? : List Char → Option Int
  | [] => some 0
  | letter :: rest =>
    if letter = 'e' ∨ letter = 'E' then
      let (negative, digits) := signed rest
      (ungroup 10 digits).map fun digits =>
        let number : Int := numeralValue 10 digits
        if negative then -number else number
    else none

/-- Whether a character may stand in the digits of a number. -/
def isNumberChar (char : Char) : Bool := char.isDigit || char = '_'

/-- A float, as far as its range goes: digits with a fraction, an exponent or both, or one of the
special values. -/
def float? (word : List Char) : Option Bool :=
  let (_, body) := signed word
  if body = ['i', 'n', 'f'] ∨ body = ['n', 'a', 'n'] then some true
  else do
    let whole ← wholeDigits? (body.takeWhile isNumberChar)
    match body.dropWhile isNumberChar with
    | [] => none
    | '.' :: rest =>
      let fraction ← ungroup 10 (rest.takeWhile isNumberChar)
      let exponent ← exponent? (rest.dropWhile isNumberChar)
      return belowFloatBound (numeralValue 10 (whole ++ fraction)) (exponent - fraction.length)
    | rest =>
      let exponent ← exponent? rest
      return belowFloatBound (numeralValue 10 whole) exponent

/-! ### Dates and times -/

/-- A number of exactly so many decimal digits, and the rest. -/
def digitsOf (count : Nat) (chars : List Char) : Option (Nat × List Char) :=
  let digits := chars.take count
  if digits.length = count ∧ digits.all Char.isDigit then
    some (numeralValue 10 digits, chars.drop count)
  else none

/-- A given character, and the rest. -/
def mark (expected : Char) : List Char → Option (List Char)
  | char :: rest => if char = expected then some rest else none
  | [] => none

/-- The days of a month. -/
def monthDays (year month : Nat) : Nat :=
  if month = 2 then
    if year % 4 = 0 ∧ (year % 100 ≠ 0 ∨ year % 400 = 0) then 29 else 28
  else if month = 4 ∨ month = 6 ∨ month = 9 ∨ month = 11 then 30
  else 31

/-- What follows a date. -/
def afterDate? (chars : List Char) : Option (List Char) := do
  let (year, rest) ← digitsOf 4 chars
  let (month, rest) ← digitsOf 2 (← mark '-' rest)
  let (day, rest) ← digitsOf 2 (← mark '-' rest)
  if 1 ≤ month ∧ month ≤ 12 ∧ 1 ≤ day ∧ day ≤ monthDays year month then some rest else none

/-- What follows the fraction of a second. -/
def afterFraction? : List Char → Option (List Char)
  | '.' :: rest =>
    if (rest.takeWhile Char.isDigit).isEmpty then none else some (rest.dropWhile Char.isDigit)
  | rest => some rest

/-- What follows a time. Seconds may be left out, and a minute may have a leap second. -/
def afterTime? (chars : List Char) : Option (List Char) := do
  let (hour, rest) ← digitsOf 2 chars
  let (minute, rest) ← digitsOf 2 (← mark ':' rest)
  if 24 ≤ hour ∨ 60 ≤ minute then none
  match rest with
  | ':' :: rest =>
    let (second, rest) ← digitsOf 2 rest
    if 60 < second then none else afterFraction? rest
  | rest => some rest

/-- Whether a text is the offset of a time from universal time, or empty. -/
def isOffset : List Char → Bool
  | [] => true
  | ['Z'] | ['z'] => true
  | sign :: rest =>
    (sign = '+' || sign = '-') &&
      match (do
        let (hour, rest) ← digitsOf 2 rest
        let (minute, rest) ← digitsOf 2 (← mark ':' rest)
        return (hour, minute, rest)) with
      | some (hour, minute, []) => hour < 24 && minute < 60
      | _ => false

/-- Whether a text is a date, a time, or a date and a time; only the last may have an offset. -/
def isMoment (word : List Char) : Bool :=
  match afterDate? word with
  | some [] => true
  | some (between :: rest) =>
    (between = 'T' || between = 't' || between = ' ') &&
      match afterTime? rest with
      | some offset => isOffset offset
      | none => false
  | none => afterTime? word = some []

/-! ### Words -/

/-- The value of an unquoted word. -/
def scalar? (word : List Char) : Option Value :=
  if word = ['t', 'r', 'u', 'e'] then some (.flag true)
  else if word = ['f', 'a', 'l', 's', 'e'] then some (.flag false)
  else if isMoment word then some .moment
  else match integer? word with
    | some number => some (.integer number)
    | none => (float? word).map .float

end Taskyard.Toml

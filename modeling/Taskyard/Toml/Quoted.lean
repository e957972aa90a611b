/-
This file reads the quoted texts of a TOML document: in double quotes with
escapes or in single quotes without, on one line or, between triple quotes, on
several.
-/

import Taskyard.Text.Numeral

namespace Taskyard.Toml

open Text

/-- A character that may stand for itself on one line: a tab or no control character. -/
def isLineChar (char : Char) : Bool :=
  char = '\t' || (0x20 ≤ char.toNat && char.toNat ≠ 0x7f)

/-- Where the reading of an escaped text stands. -/
inductive Reading where
  /-- In the text itself, perhaps skipping the blanks after the end of a line. -/
  | plain (skipping : Bool)
  /-- After a backslash. -/
  | escaped
  /-- After a backslash and blanks, which only the end of a line may follow. -/
  | gap
  /-- In the number of a character, with so many digits to come. -/
  | number (left value : Nat)

/-- The character that a letter stands for after a backslash. -/
def escapeLetter? (letter : Char) : Option Char :=
  match letter with
  | 'b' => some '\x08'
  | 't' => some '\t'
  | 'n' => some '\n'
  | 'f' => some '\x0c'
  | 'r' => some '\r'
  | 'e' => some '\x1b'
  | '"' => some '"'
  | '\\' => some '\\'
  | _ => none

/-- How many digits the number of a character has after a letter. -/
def numberWidth? (letter : Char) : Option Nat :=
  match letter with
  | 'x' => some 2
  | 'u' => some 4
  | 'U' => some 8
  | _ => none

/-- A character of the text and what was read after it. -/
def prepend (char : Char) (read : Option (List Char × List Char)) :
    Option (List Char × List Char) :=
  read.map fun (content, rest) => (char :: content, rest)

/-- The character with a number, if there is one. -/
def charOf? (value : Nat) : Option Char :=
  if value.isValidChar then some (Char.ofNat value) else none

/-- What follows a carriage return has to be the end of the line. -/
def endsLine (rest : List Char) : Bool := rest.head? = some '\n'

/-- A text in double quotes after its opening quote, and what follows its closing quote. -/
def escapedLine : Reading → List Char → Option (List Char × List Char)
  | _, [] => none
  | .plain _, char :: rest =>
    if char = '"' then some ([], rest)
    else if char = '\\' then escapedLine .escaped rest
    else if isLineChar char then prepend char (escapedLine (.plain false) rest)
    else none
  | .escaped, char :: rest =>
    match numberWidth? char, escapeLetter? char with
    | some width, _ => escapedLine (.number width 0) rest
    | none, some shown => prepend shown (escapedLine (.plain false) rest)
    | none, none => none
  | .gap, _ => none
  | .number left value, char :: rest =>
    if isDigitOf 16 char then
      let value := value * 16 + (digitValue? char).getD 0
      if left ≤ 1 then
        match charOf? value with
        | some shown => prepend shown (escapedLine (.plain false) rest)
        | none => none
      else escapedLine (.number (left - 1) value) rest
    else none

/-- What follows the closing triple quote. Up to two quotes more belong to the text. -/
def closeTriple (quote : Char) : List Char → List Char × List Char
  | first :: second :: rest =>
    if first = quote ∧ second = quote then ([quote, quote], rest)
    else if first = quote then ([quote], second :: rest)
    else ([], first :: second :: rest)
  | [first] => if first = quote then ([quote], []) else ([], [first])
  | [] => ([], [])

/-- Whether a text goes on with three of a quote. -/
def startsTriple (quote : Char) : List Char → Bool
  | first :: second :: third :: _ => first = quote && second = quote && third = quote
  | _ => false

/-- A text between triple double quotes after the opening ones. A backslash at the end of a line
drops the end of the line and all blanks and line ends after it. -/
def escapedLines : Reading → List Char → Option (List Char × List Char)
  | _, [] => none
  | .plain skipping, char :: rest =>
    if startsTriple '"' (char :: rest) then some (closeTriple '"' (rest.drop 2))
    else if char = '\r' ∧ endsLine rest = false then none
    else if skipping ∧ (char = ' ' ∨ char = '\t' ∨ char = '\n' ∨ char = '\r') then
      escapedLines (.plain true) rest
    else if char = '\\' then escapedLines .escaped rest
    else if isLineChar char ∨ char = '\n' ∨ char = '\r' then
      prepend char (escapedLines (.plain false) rest)
    else none
  | .escaped, char :: rest =>
    if char = ' ' ∨ char = '\t' then escapedLines .gap rest
    else if char = '\n' then escapedLines (.plain true) rest
    else if char = '\r' then if endsLine rest then escapedLines (.plain true) rest else none
    else match numberWidth? char, escapeLetter? char with
      | some width, _ => escapedLines (.number width 0) rest
      | none, some shown => prepend shown (escapedLines (.plain false) rest)
      | none, none => none
  | .gap, char :: rest =>
    if char = ' ' ∨ char = '\t' then escapedLines .gap rest
    else if char = '\n' then escapedLines (.plain true) rest
    else if char = '\r' then if endsLine rest then escapedLines (.plain true) rest else none
    else none
  | .number left value, char :: rest =>
    if isDigitOf 16 char then
      let value := value * 16 + (digitValue? char).getD 0
      if left ≤ 1 then
        match charOf? value with
        | some shown => prepend shown (escapedLines (.plain false) rest)
        | none => none
      else escapedLines (.number (left - 1) value) rest
    else none

/-- A text in single quotes after its opening quote. -/
def literalLine : List Char → Option (List Char × List Char)
  | [] => none
  | char :: rest =>
    if char = '\'' then some ([], rest)
    else if isLineChar char then prepend char (literalLine rest)
    else none

/-- A text between triple single quotes after the opening ones. -/
def literalLines : List Char → Option (List Char × List Char)
  | [] => none
  | char :: rest =>
    if startsTriple '\'' (char :: rest) then some (closeTriple '\'' (rest.drop 2))
    else if char = '\r' ∧ endsLine rest = false then none
    else if isLineChar char ∨ char = '\n' ∨ char = '\r' then prepend char (literalLines rest)
    else none

/-- A text that starts right after the opening triple quote does so without its first line end. -/
def dropLineEnd : List Char → List Char
  | '\n' :: rest => rest
  | '\r' :: '\n' :: rest => rest
  | rest => rest

/-- A quoted text on one line, from its opening quote on. -/
def quotedLine? : List Char → Option (List Char × List Char)
  | '"' :: rest => escapedLine (.plain false) rest
  | '\'' :: rest => literalLine rest
  | _ => none

/-- A quoted text, from its opening quote on. -/
def quotedText? : List Char → Option (List Char × List Char)
  | '"' :: '"' :: '"' :: rest => escapedLines (.plain false) (dropLineEnd rest)
  | '\'' :: '\'' :: '\'' :: rest => literalLines (dropLineEnd rest)
  | rest => quotedLine? rest

end Taskyard.Toml

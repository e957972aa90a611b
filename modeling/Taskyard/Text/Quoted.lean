/-
This file writes a text in double quotes, the way reports show a text inside a
larger value. Quotes and backslashes get a backslash, the common control
characters their letter, and a character that cannot be shown its number in
braces; every other character stands for itself.
-/

import Taskyard.Text.Unshown

namespace Taskyard.Text

/-- The number of a character in braces, in lower-case hexadecimal. -/
def numberedChar (char : Char) : List Char :=
  ['\\', 'u', '\x7b'] ++ Nat.toDigits 16 char.toNat ++ ['\x7d']

/-- One character as it stands between the quotes. -/
def quotedChar (char : Char) : List Char :=
  if char = '"' then ['\\', '"']
  else if char = '\\' then ['\\', '\\']
  else if char = '\n' then ['\\', 'n']
  else if char = '\r' then ['\\', 'r']
  else if char = '\t' then ['\\', 't']
  else if char = '\x00' then ['\\', '0']
  else if isUnshown char then numberedChar char
  else [char]

/-- A text between double quotes. -/
def quoted (text : String) : String :=
  String.ofList ('"' :: text.toList.flatMap quotedChar ++ ['"'])

end Taskyard.Text

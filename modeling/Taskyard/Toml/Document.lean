/-
This file reads a TOML document: headers and key-value lines, with arrays and
tables between braces as values. A document that breaks any rule is no document
at all, whatever its other lines say.
-/

import Taskyard.Toml.Quoted
import Taskyard.Toml.Scalar

namespace Taskyard.Toml

/-! ### Blanks, comments and line ends -/

def isSpace (char : Char) : Bool := char = ' ' || char = '\t'

/-- What follows blanks on a line. -/
def skipSpaces (chars : List Char) : List Char := chars.dropWhile isSpace

/-- What follows blanks, line ends and comments; the flag says that a comment has begun. -/
def skipTrivia : Bool → List Char → Option (List Char)
  | _, [] => some []
  | inComment, char :: rest =>
    if char = '\n' then skipTrivia false rest
    else if char = '\r' then if endsLine rest then skipTrivia false rest else none
    else if inComment then if isLineChar char then skipTrivia true rest else none
    else if char = '#' then skipTrivia true rest
    else if isSpace char then skipTrivia false rest
    else some (char :: rest)

/-- What follows the end of a line that says nothing more, and the empty lines after it. -/
def lineEnd? (chars : List Char) : Option (List Char) :=
  match skipSpaces chars with
  | [] => some []
  | char :: rest =>
    if char = '\n' ∨ char = '\r' ∨ char = '#' then skipTrivia false (char :: rest) else none

/-! ### Keys -/

def isBareKeyChar (char : Char) : Bool := char.isAlphanum || char = '_' || char = '-'

/-- One key: quoted on one line, or bare and not empty. -/
def key? (chars : List Char) : Option (String × List Char) :=
  match quotedLine? chars with
  | some (content, rest) => some (String.ofList content, rest)
  | none =>
    let bare := chars.takeWhile isBareKeyChar
    if bare.isEmpty then none else some (String.ofList bare, chars.dropWhile isBareKeyChar)

/-- A dotted key, with blanks around its parts: the parts before the last, and the last. -/
def keyPath? : Nat → List Char → Option ((List String × String) × List Char)
  | 0, _ => none
  | fuel + 1, chars => do
    let (first, rest) ← key? (skipSpaces chars)
    match skipSpaces rest with
    | '.' :: rest =>
      let ((path, last), rest) ← keyPath? fuel rest
      return ((first :: path, last), rest)
    | rest => return (([], first), rest)

/-! ### Values -/

/-- How deep arrays and tables between braces may be nested. -/
def depthLimit : Nat := 80

/-- Whether a character ends an unquoted word. -/
def endsWord (char : Char) : Bool :=
  isSpace char || char = '\n' || char = '\r' || char = ',' || char = ']' || char = '\x7d' ||
    char = '#' || char = '=' || char = '[' || char = '\x7b' || char = '"' || char = '\''

/-- An unquoted word. One blank may stand between a date and a time. -/
def word (chars : List Char) : List Char × List Char :=
  let first := chars.takeWhile fun char => !endsWord char
  let rest := chars.dropWhile fun char => !endsWord char
  match rest with
  | ' ' :: digit :: more =>
    if digit.isDigit ∧ afterDate? first = some [] then
      let second := (digit :: more).takeWhile fun char => !endsWord char
      (first ++ ' ' :: second, (digit :: more).dropWhile fun char => !endsWord char)
    else (first, rest)
  | _ => (first, rest)

mutual

/-- A value, and what follows it. The fuel is at least twice the length of the text. -/
def value? (fuel depth : Nat) (chars : List Char) : Option (Value × List Char) :=
  match fuel with
  | 0 => none
  | fuel + 1 =>
    match chars with
    | '[' :: rest =>
      if depth < depthLimit then do
        let (items, rest) ← items? fuel (depth + 1) rest
        return (.array false items, rest)
      else none
    | '\x7b' :: rest =>
      if depth < depthLimit then do
        let (table, rest) ← entries? fuel (depth + 1) (.empty .inline) rest
        return (table.toValue, rest)
      else none
    | chars =>
      match chars.head? with
      | some '"' | some '\'' => do
        let (content, rest) ← quotedText? chars
        return (.text (String.ofList content), rest)
      | _ => do
        let (word, rest) := word chars
        return (← scalar? word, rest)

/-- The items of an array after its opening bracket or a comma, and what follows the closing one. -/
def items? (fuel depth : Nat) (chars : List Char) : Option (List Value × List Char) :=
  match fuel with
  | 0 => none
  | fuel + 1 => do
    match ← skipTrivia false chars with
    | ']' :: rest => return ([], rest)
    | chars =>
      let (item, rest) ← value? fuel depth chars
      match ← skipTrivia false rest with
      | ',' :: rest =>
        let (items, rest) ← items? fuel depth rest
        return (item :: items, rest)
      | ']' :: rest => return ([item], rest)
      | _ => none

/-- The entries of a table between braces after the opening brace or a comma, added to those that
came before. -/
def entries? (fuel depth : Nat) (table : Table) (chars : List Char) :
    Option (Table × List Char) :=
  match fuel with
  | 0 => none
  | fuel + 1 => do
    match ← skipTrivia false chars with
    | '\x7d' :: rest => return (table, rest)
    | chars =>
      let ((path, key), rest) ← keyPath? fuel chars
      match rest with
      | '=' :: rest =>
        let (value, rest) ← value? fuel depth (skipSpaces rest)
        let table ← table.insert path key value
        match ← skipTrivia false rest with
        | ',' :: rest => entries? fuel depth table rest
        | '\x7d' :: rest => return (table, rest)
        | _ => none
      | _ => none

end

/-! ### Lines -/

/-- A document as far as it was read: its tables, and the header that the next lines stand under. -/
structure Draft where
  root : Table
  header : List String

/-- A header, after its opening brackets. -/
def header? (fuel : Nat) (ofArray : Bool) (draft : Draft) (chars : List Char) :
    Option (Draft × List Char) := do
  let ((path, key), rest) ← keyPath? fuel chars
  match ofArray, rest with
  | true, ']' :: ']' :: rest =>
    return (⟨← draft.root.append path key, path ++ [key]⟩, rest)
  | false, ']' :: rest =>
    return (⟨← draft.root.define path key, path ++ [key]⟩, rest)
  | _, _ => none

/-- A key-value line. -/
def keyValue? (fuel : Nat) (draft : Draft) (chars : List Char) : Option (Draft × List Char) := do
  let ((path, key), rest) ← keyPath? fuel chars
  match rest with
  | '=' :: rest =>
    let (value, rest) ← value? fuel 0 (skipSpaces rest)
    let root ← draft.root.within false (fun table => table.insert path key value) draft.header
    return (⟨root, draft.header⟩, rest)
  | _ => none

/-- The lines of a document. The fuel is more than twice the length of the text. -/
def lines? : Nat → Draft → List Char → Option Table
  | 0, _, _ => none
  | fuel + 1, draft, chars => do
    match ← skipTrivia false chars with
    | [] => return draft.root
    | '[' :: '[' :: rest =>
      let (draft, rest) ← header? fuel true draft rest
      lines? fuel draft (← lineEnd? rest)
    | '[' :: rest =>
      let (draft, rest) ← header? fuel false draft rest
      lines? fuel draft (← lineEnd? rest)
    | chars =>
      let (draft, rest) ← keyValue? fuel draft chars
      lines? fuel draft (← lineEnd? rest)

/-- A text without the byte order mark that it may start with. -/
def dropOrderMark : List Char → List Char
  | '\ufeff' :: rest => rest
  | rest => rest

/-- The table that a document describes. -/
def parse? (document : String) : Option Table :=
  let chars := dropOrderMark document.toList
  lines? (2 * chars.length + 2) ⟨.empty .defined, []⟩ chars

end Taskyard.Toml

/-
This file reads the settings from a TOML document. Every key may be missing, and
then keeps its default; a key of the wrong type makes the whole document
unusable; keys without a meaning are passed over, as long as their numbers are
numbers. A section may also be an array of its values in the order of its keys.
-/

import Taskyard.Settings
import Taskyard.Text.Numeral
import Taskyard.Toml.Document

namespace Taskyard.Settings

open Toml (Value)

/-! ### Values -/

/-- A number of 64 bits without a sign. -/
def word? : Value → Option Nat
  | .integer number => if 0 ≤ number ∧ number < Text.wordBound then some number.toNat else none
  | _ => none

def flag? : Value → Option Bool
  | .flag holds => some holds
  | _ => none

def text? : Value → Option String
  | .text content => some content
  | _ => none

/-! ### Sections -/

/-- How one key changes a section, in the order in which an array gives the values. -/
abbrev Keys (Section : Type) := Listing String (Value → Section → Option Section)

def poolKeys : Keys PoolSettings :=
  [("size", fun value settings => (word? value).map ({ settings with size := · })),
    ("task_timeout_ms", fun value settings =>
      (word? value).map ({ settings with timeoutMillis := · })),
    ("nonblocking", fun value settings => (flag? value).map ({ settings with nonblocking := · })),
    ("max_blocking_tasks", fun value settings =>
      (word? value).map ({ settings with queueLimit := · }))]

def logKeys : Keys LogSettings :=
  [("level", fun value settings => (text? value).map ({ settings with level := · })),
    ("file", fun value settings => (text? value).map ({ settings with file := some · }))]

/-- Whether an entry has a key with a meaning, or one that can be passed over. -/
def isReadable {Section : Type} (keys : Keys Section) (entry : String × Value) : Bool :=
  (Listing.get? entry.1 keys).isSome || entry.2.inRange

/-- What the entries say of one key changes a section. -/
def applyKey {Section : Type} (entries : Listing String Value) (settings : Section)
    (key : String × (Value → Section → Option Section)) : Option Section :=
  match entries.get? key.1 with
  | some value => key.2 value settings
  | none => some settings

/-- A section from its entries, key by key. -/
def ofEntries {Section : Type} (keys : Keys Section) (entries : Listing String Value)
    (settings : Section) : Option Section :=
  if entries.all (isReadable keys) then keys.foldlM (applyKey entries) settings else none

/-- A section from its values in order. Values beyond the last key are not looked at. -/
def ofItems {Section : Type} : Keys Section → List Value → Section → Option Section
  | key :: keys, value :: rest, settings => do ofItems keys rest (← key.2 value settings)
  | _, _, settings => some settings

/-- A section. A date or time in its place says nothing about any key. -/
def ofValue {Section : Type} (keys : Keys Section) (value : Value) (settings : Section) :
    Option Section :=
  match value with
  | .table _ entries => ofEntries keys entries settings
  | .array _ items => ofItems keys items settings
  | .moment => some settings
  | _ => none

/-- The sections of the document, as the keys of the settings. -/
def sections : Keys Settings :=
  [("pool", fun value settings =>
      (ofValue poolKeys value settings.pool).map ({ settings with pool := · })),
    ("log", fun value settings =>
      (ofValue logKeys value settings.log).map ({ settings with log := · }))]

/-- The settings of a document, unless it is malformed. -/
def ofDocument? (document : String) : Option Settings := do
  let table ← Toml.parse? document
  ofEntries sections table.entries default

end Taskyard.Settings

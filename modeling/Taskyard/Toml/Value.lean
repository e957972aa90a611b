/-
This file holds what a TOML document says: values, and tables that remember how
they came to be. A document may add to a table in some ways and not in others,
and which ways are open depends on how the table was first written.
-/

import Taskyard.Listing

namespace Taskyard.Toml

/-- How a table came to be. -/
inductive Standing where
  /-- Written by a header of its own. -/
  | defined
  /-- Passed through by the header of a table inside it. -/
  | implied
  /-- Passed through by a dotted key. -/
  | dotted
  /-- Written between braces. -/
  | inline
deriving DecidableEq, Repr

/-- A value of a document. Of a float only the range matters here, of a date or time nothing. -/
inductive Value where
  | text (content : String)
  | integer (number : Int)
  | float (inRange : Bool)
  | flag (holds : Bool)
  | moment
  | array (ofTables : Bool) (items : List Value)
  | table (standing : Standing) (entries : List (String × Value))
deriving Repr

/-- A table: how it came to be, and its entries in the order of the document. -/
structure Table where
  standing : Standing
  entries : Listing String Value
deriving Repr

namespace Table

def empty (standing : Standing) : Table := ⟨standing, []⟩

def toValue (table : Table) : Value := .table table.standing table.entries

def get? (table : Table) (key : String) : Option Value := table.entries.get? key

/-- Replace the value of a key, or add the key at the end. -/
def set (table : Table) (key : String) (value : Value) : Table :=
  { table with entries := table.entries.put key value }

/-- Change the table at the end of a path. Steps that are missing are made on the way. A dotted key
may not pass through a table that has a header of its own, and nothing passes through a table
between braces; an array of tables is entered at its last table. -/
def within (dotted : Bool) (change : Table → Option Table) :
    List String → Table → Option Table
  | [], table => change table
  | key :: path, table =>
    match table.get? key with
    | none => do
      let child ← within dotted change path (empty (if dotted then .dotted else .implied))
      return table.set key child.toValue
    | some (.table standing entries) =>
      if standing = .inline ∨ (dotted ∧ standing = .defined) then none
      else do
        let child ← within dotted change path ⟨standing, entries⟩
        return table.set key child.toValue
    | some (.array true items) =>
      match items.reverse with
      | .table standing entries :: before => do
        let child ← within dotted change path ⟨standing, entries⟩
        return table.set key (.array true (child.toValue :: before).reverse)
      | _ => none
    | some _ => none

/-- Add the value of a key path. The last table on the way has to be one of dotted keys, unless the
path is a single key, and the key has to be new. -/
def insert (table : Table) (path : List String) (key : String) (value : Value) : Option Table :=
  within true (fun parent =>
    if decide (parent.standing = .dotted) = path.isEmpty then none
    else if (parent.get? key).isSome then none
    else some (parent.set key value)) path table

/-- The table of a header: new, or passed through before by the header of a table inside it. -/
def define (table : Table) (path : List String) (key : String) : Option Table :=
  within false (fun parent =>
    match parent.get? key with
    | none => some (parent.set key (empty .defined).toValue)
    | some (.table .implied entries) => some (parent.set key (.table .defined entries))
    | some _ => none) path table

/-- One more table of an array of tables. -/
def append (table : Table) (path : List String) (key : String) : Option Table :=
  within false (fun parent =>
    match parent.get? key with
    | none => some (parent.set key (.array true [(empty .defined).toValue]))
    | some (.array true items) =>
      some (parent.set key (.array true (items ++ [(empty .defined).toValue])))
    | some _ => none) path table

end Table

/-- Whether a number fits 128 bits, with a sign if it is negative and without one otherwise. -/
def fitsWidest (number : Int) : Bool :=
  -(Int.ofNat (Nat.pow 2 127)) ≤ number && number < Int.ofNat (Nat.pow 2 128)

mutual

/-- Whether every number inside a value fits the widest types: 128 bits for integers, doubles for
floats. -/
def Value.inRange : Value → Bool
  | .integer number => fitsWidest number
  | .float inRange => inRange
  | .array _ items => Value.allInRange items
  | .table _ entries => Value.entriesInRange entries
  | .text _ | .flag _ | .moment => true

def Value.allInRange : List Value → Bool
  | [] => true
  | item :: rest => item.inRange && Value.allInRange rest

def Value.entriesInRange : List (String × Value) → Bool
  | [] => true
  | entry :: rest => entry.2.inRange && Value.entriesInRange rest

end

end Taskyard.Toml

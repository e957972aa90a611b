/-
This file holds the values that a task may return. The tasks of one batch may
return values of different kinds; whoever reads a value names the kind that is
expected and gets nothing when the value is of another kind. The kinds that are
listed are those whose values are shown somewhere. There are as many others as
there are types, and of their values no more is known than what tells them apart.
-/

namespace Taskyard

/-- The kinds of value. -/
inductive Kind where
  | int32
  | int64
  | word64
  | flag
  | text
  | unit
  | list
  /-- Any other type, by what tells it from the rest. -/
  | other (type : String)
deriving DecidableEq, Repr

/-- A value that a task returned. -/
inductive Value where
  | int32 (value : Int32)
  | int64 (value : Int64)
  | word64 (value : UInt64)
  | flag (value : Bool)
  | text (value : String)
  | unit
  | list (values : List Int64)
  | other (type content : String)
deriving DecidableEq, Repr

namespace Value

def kind : Value → Kind
  | .int32 _ => .int32
  | .int64 _ => .int64
  | .word64 _ => .word64
  | .flag _ => .flag
  | .text _ => .text
  | .unit => .unit
  | .list _ => .list
  | .other type _ => .other type

/-- The value, if it is of the kind that the reader expects. -/
def read? (value : Value) (kind : Kind) : Option Value :=
  if value.kind = kind then some value else none

/-- A value shows nothing of itself in the text of what holds it. -/
def detail (_ : Value) : String := "TaskValue(..)"

end Value

/-- The two answers to an attempt to take a value out of its holder. -/
inductive Taken where
  | value (value : Value)
  | mismatch
  | moved
deriving DecidableEq, Repr

/-- A holder of a value that may be taken out once, under its own kind. -/
structure Holder where
  value? : Option Value
deriving DecidableEq, Repr

namespace Holder

def of (value : Value) : Holder := ⟨some value⟩

/-- Whether the value held is of a kind; nothing when it was taken out. -/
def is? (holder : Holder) (kind : Kind) : Option Bool :=
  holder.value?.map fun value => decide (value.kind = kind)

/-- The value held, read as a kind; nothing inside when it is of another. -/
def read? (holder : Holder) (kind : Kind) : Option (Option Value) :=
  holder.value?.map fun value => value.read? kind

/-- Take the value out under a kind. A wrong kind leaves it where it is. -/
def take (holder : Holder) (kind : Kind) : Taken × Holder :=
  match holder.value? with
  | none => (.moved, holder)
  | some value =>
    if value.kind = kind then (.value value, ⟨none⟩) else (.mismatch, holder)

end Holder

end Taskyard

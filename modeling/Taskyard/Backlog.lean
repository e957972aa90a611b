/-
This file holds the backlog: for every scope the tasks that were pushed under it
and wait for somebody to run them as one batch. A batch is taken or discarded
whole, and no empty batch is kept.
-/

import Taskyard.Listing
import Taskyard.Scope

namespace Taskyard

/-- A task, known by its serial number; its label is what reports call it. -/
@[ext]
structure TaskId where
  serial : Nat
  label : String
deriving DecidableEq, Repr

namespace TaskId

def shown (task : TaskId) : String := "<" ++ task.label ++ ">"

def detail (task : TaskId) : String := "TaskId(" ++ task.shown ++ ")"

end TaskId

/-- A task with what it is to do. -/
structure Entry (Body : Type) where
  task : TaskId
  body : Body

/-- The text of an entry, which says nothing of what it is to do. -/
def Entry.detail {Body : Type} (entry : Entry Body) : String :=
  "TaskDescriptor \x7b id: " ++ entry.task.detail ++ ", .. \x7d"

/-- The batches that wait, each under its scope and in the order of the pushes. -/
structure Backlog (Body : Type) where
  batches : Listing ScopeId (List (Entry Body))

namespace Backlog

variable {Body : Type}

def empty : Backlog Body := ⟨[]⟩

/-- The tasks that wait under a scope. -/
def batch (backlog : Backlog Body) (scope : ScopeId) : List (Entry Body) :=
  (backlog.batches.get? scope).getD []

/-- How many tasks wait under a scope. -/
def pending (backlog : Backlog Body) (scope : ScopeId) : Nat := (backlog.batch scope).length

/-- How many scopes have tasks waiting. -/
def count (backlog : Backlog Body) : Nat := backlog.batches.length

/-- Remove the batch of a scope. -/
def remove (backlog : Backlog Body) (scope : ScopeId) : Backlog Body :=
  ⟨backlog.batches.remove scope⟩

/-- Add a task at the end of the batch of a scope. -/
def push (backlog : Backlog Body) (scope : ScopeId) (entry : Entry Body) : Backlog Body :=
  ⟨backlog.batches.put scope (backlog.batch scope ++ [entry])⟩

/-- The tasks of a scope are those of its batch, if it has one. -/
theorem batch_of_get? {backlog : Backlog Body} {scope : ScopeId} {entries : List (Entry Body)}
    (stored : backlog.batches.get? scope = some entries) : backlog.batch scope = entries := by
  rw [batch, stored, Option.getD_some]

/-- Removing a batch leaves every other batch as it was. -/
theorem batch_remove (backlog : Backlog Body) (scope other : ScopeId) :
    (backlog.remove scope).batch other = if other = scope then [] else backlog.batch other := by
  simp only [batch, remove, Listing.get?_remove]
  split <;> rfl

/-- A push adds the task at the end of the batch of its scope, and leaves every other as it was. -/
theorem batch_push (backlog : Backlog Body) (scope other : ScopeId) (entry : Entry Body) :
    (backlog.push scope entry).batch other =
      if other = scope then backlog.batch scope ++ [entry] else backlog.batch other := by
  simp only [push, batch, Listing.get?_put]
  split <;> rfl

/-- Take the whole batch of a scope, if there is one. -/
def take (backlog : Backlog Body) (scope : ScopeId) : Option (List (Entry Body)) × Backlog Body :=
  (backlog.batches.get? scope, backlog.remove scope)

/-- Drop the batch of a scope, and say how many tasks it had. -/
def discard (backlog : Backlog Body) (scope : ScopeId) : Nat × Backlog Body :=
  (backlog.pending scope, backlog.remove scope)

/-- Drop every batch, and say how many tasks they had. -/
def clear (backlog : Backlog Body) : Nat × Backlog Body :=
  ((backlog.batches.flatMap Prod.snd).length, empty)

end Backlog

end Taskyard

/-
This file holds the scopes: for whom work is done, and until when. A scope ends
when it is cancelled or when its deadline passes. Scopes form a tree; the end of
a scope is the end of every scope below it, because a cancellation is looked up
along the way to the root and because no scope has a later deadline than the one
it was derived from.

The reason of an end is written down the first time anybody asks, or when the
scope itself is cancelled, and does not change after that.
-/

import Taskyard.Error

namespace Taskyard

/-- A scope, known by its number. The first scope has number one. -/
@[ext]
structure ScopeId where
  number : Nat
deriving DecidableEq, Repr

namespace ScopeId

def text (scope : ScopeId) : String := "scope#" ++ toString scope.number

/-- The text of the scope itself, in brackets. -/
def shown (scope : ScopeId) : String := "[" ++ scope.text ++ "]"

end ScopeId

/-- What is known of one scope. -/
structure ScopeRecord where
  parent : Option ScopeId
  deadline : Option Duration
  /-- Whether this scope itself was cancelled. -/
  cancelled : Bool
  /-- Why it ended, once somebody knows. -/
  reason : Option EndReason
deriving DecidableEq, Repr

/-- All scopes, the newest first. The number of a scope is the place of its record from the end. -/
structure Scopes where
  records : List ScopeRecord
deriving DecidableEq, Repr

namespace Scopes

def empty : Scopes := ⟨[]⟩

/-! ### Looking -/

/-- The record of a scope. -/
def find? (scope : ScopeId) : List ScopeRecord → Option ScopeRecord
  | [] => none
  | record :: older =>
    if scope.number = older.length + 1 then some record else find? scope older

def record? (scopes : Scopes) (scope : ScopeId) : Option ScopeRecord := find? scope scopes.records

/-- Whether a scope or one on its way to the root was cancelled. The parent of a scope is older. -/
def cancelledIn (scope : ScopeId) : List ScopeRecord → Bool
  | [] => false
  | record :: older =>
    if scope.number = older.length + 1 then
      record.cancelled ||
        match record.parent with
        | some parent => cancelledIn parent older
        | none => false
    else cancelledIn scope older

def isCancelled (scopes : Scopes) (scope : ScopeId) : Bool := cancelledIn scope scopes.records

def deadline? (scopes : Scopes) (scope : ScopeId) : Option Duration :=
  (scopes.record? scope).bind ScopeRecord.deadline

/-- Whether the deadline of a scope has passed. It has at the very moment it names. -/
def isOverdue (scopes : Scopes) (now : Duration) (scope : ScopeId) : Bool :=
  match scopes.deadline? scope with
  | some deadline => deadline ≤ now
  | none => false

/-- Why a scope has ended, if it has. A passed deadline comes before a cancellation. -/
def ended? (scopes : Scopes) (now : Duration) (scope : ScopeId) : Option EndReason :=
  match (scopes.record? scope).bind ScopeRecord.reason with
  | some reason => some reason
  | none =>
    if scopes.isOverdue now scope then some .deadlineExceeded
    else if scopes.isCancelled scope then some .cancelled
    else none

/-! ### Changing -/

/-- Change the record of a scope. -/
def modify (scope : ScopeId) (change : ScopeRecord → ScopeRecord) :
    List ScopeRecord → List ScopeRecord
  | [] => []
  | record :: older =>
    if scope.number = older.length + 1 then change record :: older
    else record :: modify scope change older

/-- Write down why a scope ended, unless that is known already. -/
def settle (scopes : Scopes) (scope : ScopeId) (reason : EndReason) : Scopes :=
  ⟨modify scope (fun record => { record with reason := record.reason.or (some reason) })
    scopes.records⟩

/-- Ask why a scope has ended. The answer is written down. -/
def query (scopes : Scopes) (now : Duration) (scope : ScopeId) : Option EndReason × Scopes :=
  match scopes.ended? now scope with
  | some reason => (some reason, scopes.settle scope reason)
  | none => (none, scopes)

/-- Cancel a scope. If its deadline has passed, that stays the reason. -/
def cancel (scopes : Scopes) (now : Duration) (scope : ScopeId) : Scopes :=
  let reason := if scopes.isOverdue now scope then .deadlineExceeded else .cancelled
  ⟨modify scope (fun record => { record with cancelled := true })
    (scopes.settle scope reason).records⟩

/-- Add a scope. -/
def add (scopes : Scopes) (parent : Option ScopeId) (deadline : Option Duration) :
    ScopeId × Scopes :=
  (⟨scopes.records.length + 1⟩, ⟨⟨parent, deadline, false, none⟩ :: scopes.records⟩)

/-- Derive a scope with the deadline of the one it is derived from. -/
def child (scopes : Scopes) (parent : ScopeId) : ScopeId × Scopes :=
  scopes.add (some parent) (scopes.deadline? parent)

/-- Derive a scope with a deadline of its own, unless the one it is derived from ends earlier. -/
def childBefore (scopes : Scopes) (parent : ScopeId) (deadline : Duration) : ScopeId × Scopes :=
  scopes.add (some parent) (some (match scopes.deadline? parent with
    | some inherited => inherited.earlier deadline
    | none => deadline))

/-! ### What changes do to records -/

theorem length_modify (scope : ScopeId) (change : ScopeRecord → ScopeRecord)
    (records : List ScopeRecord) : (modify scope change records).length = records.length := by
  fun_induction modify scope change records <;> simp_all

/-- Changing a record changes the record of that scope, and of no other. -/
theorem find?_modify (scope other : ScopeId) (change : ScopeRecord → ScopeRecord)
    (records : List ScopeRecord) :
    find? other (modify scope change records) =
      if other = scope then (find? other records).map change else find? other records := by
  induction records with
  | nil => simp [find?, modify]
  | cons record older inductionHypothesis =>
    by_cases same : other = scope
    · subst same
      by_cases here : other.number = older.length + 1 <;>
        simp_all [find?, modify, length_modify]
    · have apart : other.number ≠ scope.number := fun equal => same (ScopeId.ext equal)
      by_cases here : scope.number = older.length + 1 <;>
        by_cases there : other.number = older.length + 1 <;>
        simp_all [find?, modify, length_modify]

/-- A scope keeps its record when another is added. -/
theorem record?_add (scopes : Scopes) (parent : Option ScopeId) (deadline : Option Duration)
    {scope : ScopeId} (known : scope.number ≤ scopes.records.length) :
    (scopes.add parent deadline).2.record? scope = scopes.record? scope := by
  simp only [record?, add, find?]
  rw [if_neg (by omega)]

/-! ### Asking -/

theorem query_of_none {scopes : Scopes} {now : Duration} {scope : ScopeId}
    (going : scopes.ended? now scope = none) : scopes.query now scope = (none, scopes) := by
  simp [query, going]

theorem query_of_some {scopes : Scopes} {now : Duration} {scope : ScopeId} {reason : EndReason}
    (ended : scopes.ended? now scope = some reason) :
    scopes.query now scope = (some reason, scopes.settle scope reason) := by
  simp [query, ended]

end Scopes

end Taskyard

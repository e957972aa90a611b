/-
This file holds what steps answer.
-/

import Taskyard.Yard.Job

namespace Taskyard

/-- What part of a yard a workload sees, and with it which numbers describe its state. -/
inductive Facility where
  /-- Slots, backlog and scopes together. -/
  | pool
  /-- The slots by themselves. -/
  | slots
  /-- The backlog by itself. -/
  | backlog
  /-- Nothing but scopes. -/
  | scopes
deriving DecidableEq, Repr

/-- The numbers that describe the state of a facility. -/
inductive Status where
  | pool (running capacity waiting : Nat)
  | slots (running capacity waiting idle : Nat) (closed : Bool)
  | backlog (batches : Nat)
  | none
deriving DecidableEq, Repr

/-- The state of a yard, as far as the facility goes. -/
def Facility.status {Body : Type} (facility : Facility) (yard : Yard Body) : Status :=
  match facility with
  | .pool => .pool yard.slots.running yard.slots.capacity yard.slots.waiting
  | .slots =>
    .slots yard.slots.running yard.slots.capacity yard.slots.waiting yard.slots.idle
      yard.slots.closed
  | .backlog => .backlog yard.backlog.count
  | .scopes => .none

/-- What a step answers. -/
inductive Answer where
  | nothing
  /-- Goes on in the background. -/
  | spawned
  /-- Took too long and was dropped. -/
  | pending
  | aborted
  | noHandle
  | accepted
  | opened (scope : ScopeId)
  | reason (reason : EndReason)
  | flag (holds : Bool)
  | count (number : Nat)
  | millis (number : Nat)
  | span (span : Duration)
  | described (scope : ScopeId)
  | compared (first second : ScopeId)
  | pushed (task : TaskId)
  | refused (error : PoolError)
  | failed (error : TaskError)
  | completed (value : Value)
  | value (value : Value)
  | outcome (outcome : Outcome)
  | text (text : String)
  | taken (tasks : List (TaskId × String))
  | status (status : Status)
  | several (answers : List Answer)
  | panicked (message : String)

end Taskyard

/-
This file holds the yard: one pool of slots with its backlog, the scopes, and
the clock they share. The yard knows which bodies have a slot and which
operations are under way; what a body does between its start and its end is
nobody's business here. Whoever drives the yard decides what happens next, and
may decide it in any order.

Operations that may have to wait are calls. A call is begun, polled as often as
its owner likes, and perhaps dropped; the file `Yard.Call` does that. Bodies
that have a slot are jobs; they start and end in `Yard.Job`.
-/

import Taskyard.Journal
import Taskyard.Outcome
import Taskyard.Slots

namespace Taskyard

/-- A body that has a slot, known by its serial number. -/
@[ext]
structure JobId where
  serial : Nat
deriving DecidableEq, Repr

/-- On whose behalf a body runs. -/
inductive Purpose where
  /-- Nobody waits for what comes of it. -/
  | errand
  /-- A call waits for its output. -/
  | solo (call : CallId)
  /-- A call waits for the outputs of a batch, of which it is one. -/
  | member (call : CallId) (task : TaskId) (scope : ScopeId)
deriving DecidableEq, Repr

/-- A body that has a slot. It may have to wait for its start even so. -/
structure Job (Body : Type) where
  id : JobId
  purpose : Purpose
  body : Body
  started : Bool

/-- A batch that is being run. -/
structure Batch (Body : Type) where
  scope : ScopeId
  timeout : Duration
  begun : Duration
  /-- When the timeout is over. -/
  deadline : Duration
  /-- Every task of the batch, in the order of the pushes. -/
  tasks : List TaskId
  /-- The tasks that have no slot yet and were not refused one. -/
  unsubmitted : List (Entry Body)
  /-- Whether the first of them waits for a slot. -/
  queued : Bool
  /-- Outputs that came in and were not looked at yet. -/
  inbox : List (TaskId × Output)
  /-- What is known of the others. -/
  outcome : Outcome

/-- An operation that is under way. -/
inductive Call (Body : Type) where
  /-- Waits for a slot for a body. -/
  | submit (body : Body)
  /-- Waits, under a scope, for a slot for a body. -/
  | soloQueued (scope : ScopeId) (body : Body)
  /-- Waits, under a scope, for the output of the body that it got a slot for. -/
  | solo (scope : ScopeId) (reply : Option Output)
  | batch (batch : Batch Body)
  /-- Waits for every job to end, up to a moment if the clock can count to it. -/
  | drain (timeout : Duration) (deadline : Option Duration)
  /-- Waits for a scope to end. -/
  | watch (scope : ScopeId)

/-- The yard. -/
structure Yard (Body : Type) where
  now : Duration
  options : Options
  scopes : Scopes
  backlog : Backlog Body
  slots : Slots
  /-- The timeout of the next batch, if one was set. -/
  nextTimeout : Option Duration
  /-- The bodies that have a slot, in the order in which they got it. -/
  jobs : List (Job Body)
  calls : Listing CallId (Call Body)
  taskCount : Nat
  jobCount : Nat
  callCount : Nat
  journal : List Note
  /-- Messages of panics that were reported to whoever wants to hear of them. -/
  reported : List String

namespace Yard

variable {Body : Type}

/-! ### Opening -/

/-- A yard at the start of the clock, unless its capacity is not one. -/
def open? (options : Options) : Except PoolError (Yard Body) := do
  let slots ← Slots.open? options
  return {
    now := .zero
    options := options
    scopes := .empty
    backlog := .empty
    slots := slots
    nextTimeout := none
    jobs := []
    calls := []
    taskCount := 0
    jobCount := 0
    callCount := 0
    journal := []
    reported := [] }

/-- Write a note into the journal. -/
def note (yard : Yard Body) (note : Note) : Yard Body :=
  { yard with journal := yard.journal ++ [note] }

/-- A yard whose journal begins with its opening. -/
def openNoted? (options : Options) : Except PoolError (Yard Body) := do
  return (← open? options).note (.opened options)

/-! ### The clock -/

/-- Let the clock show a later time, if it can. It never goes back. -/
def advanceTo (yard : Yard Body) (moment : Duration) : Yard Body :=
  if yard.now ≤ moment ∧ moment.isShown = true then { yard with now := moment } else yard

/-- Whether the clock has come to a deadline, if there is one. -/
def hasPassed (yard : Yard Body) (deadline : Option Duration) : Bool :=
  deadline.any fun moment => decide (moment ≤ yard.now)

theorem hasPassed_iff {yard : Yard Body} {deadline : Option Duration} :
    yard.hasPassed deadline = true ↔ ∃ moment, deadline = some moment ∧ moment ≤ yard.now := by
  cases deadline <;> simp [hasPassed]

/-! ### Scopes -/

/-- Why a scope has ended, if it has. -/
def ended? (yard : Yard Body) (scope : ScopeId) : Option EndReason :=
  yard.scopes.ended? yard.now scope

/-- Ask why a scope has ended, and have the answer written down. -/
def query (yard : Yard Body) (scope : ScopeId) : Option EndReason × Yard Body :=
  let (reason, scopes) := yard.scopes.query yard.now scope
  (reason, { yard with scopes := scopes })

theorem query_of_none {yard : Yard Body} {scope : ScopeId} (going : yard.ended? scope = none) :
    yard.query scope = (none, yard) := by
  rw [query, Scopes.query_of_none going]

theorem query_of_some {yard : Yard Body} {scope : ScopeId} {reason : EndReason}
    (ended : yard.ended? scope = some reason) : yard.query scope =
      (some reason, { yard with scopes := yard.scopes.settle scope reason }) := by
  rw [query, Scopes.query_of_some ended]

def cancel (yard : Yard Body) (scope : ScopeId) : Yard Body :=
  { yard with scopes := yard.scopes.cancel yard.now scope }

/-- Where a new scope comes from. -/
inductive Descent where
  | root
  | rootBefore (deadline : Duration)
  | child (parent : ScopeId)
  | childBefore (parent : ScopeId) (deadline : Duration)
deriving DecidableEq, Repr

/-- Open a scope. -/
def openScope (yard : Yard Body) (descent : Descent) : ScopeId × Yard Body :=
  let (scope, scopes) := match descent with
    | .root => yard.scopes.add none none
    | .rootBefore deadline => yard.scopes.add none (some deadline)
    | .child parent => yard.scopes.child parent
    | .childBefore parent deadline => yard.scopes.childBefore parent deadline
  (scope, { yard with scopes := scopes })

/-! ### The backlog -/

/-- Put a task into the backlog, whatever the state of its scope and of the slots. -/
def store (yard : Yard Body) (scope : ScopeId) (label : String) (body : Body) :
    TaskId × Yard Body :=
  let task : TaskId := ⟨yard.taskCount, label⟩
  let backlog := yard.backlog.push scope ⟨task, body⟩
  (task, { yard with backlog := backlog, taskCount := yard.taskCount + 1 }.note
    (.pushed scope task (backlog.pending scope)))

/-- Push a task under a scope, for the next batch of the scope. A scope that has ended takes no
task, and slots that are closed neither. -/
def push (yard : Yard Body) (scope : ScopeId) (label : String) (body : Body) :
    Except PoolError TaskId × Yard Body :=
  match yard.query scope with
  | (some reason, yard) => (.error (.scope reason), yard)
  | (none, yard) =>
    if yard.slots.closed then (.error .closed, yard)
    else
      let (task, yard) := yard.store scope label body
      (.ok task, yard)

def pending (yard : Yard Body) (scope : ScopeId) : Nat := yard.backlog.pending scope

def discard (yard : Yard Body) (scope : ScopeId) : Nat × Yard Body :=
  let (count, backlog) := yard.backlog.discard scope
  (count, { yard with backlog := backlog })

def clear (yard : Yard Body) : Nat × Yard Body :=
  let (count, backlog) := yard.backlog.clear
  (count, { yard with backlog := backlog })

/-- Take the batch of a scope out of the backlog. -/
def takeBatch (yard : Yard Body) (scope : ScopeId) : Option (List (Entry Body)) × Yard Body :=
  let (batch, backlog) := yard.backlog.take scope
  (batch, { yard with backlog := backlog })

/-! ### Timeouts of batches -/

/-- Set the timeout of the next batch. -/
def setTimeout (yard : Yard Body) (timeout : Duration) : Yard Body :=
  { yard with nextTimeout := some timeout }

/-- The timeout of the next batch. -/
def timeout (yard : Yard Body) : Duration := yard.nextTimeout.getD yard.options.taskTimeout

/-- Use the timeout of the next batch up. The one after it has the default again. -/
def takeTimeout (yard : Yard Body) : Duration × Yard Body :=
  (yard.timeout, { yard with nextTimeout := none })

/-! ### Release -/

/-- Close the slots. Bodies that have one keep it. -/
def closeSlots (yard : Yard Body) : Yard Body :=
  { yard with slots := yard.slots.close }.note (.slotsClosed yard.slots.running)

/-- Close the slots and drop the backlog. -/
def release (yard : Yard Body) : Yard Body :=
  let (dropped, yard) := yard.closeSlots.clear
  yard.note (.released dropped yard.slots.running)

end Yard

end Taskyard

/-
This file lets operations begin, go on and be dropped. Beginning a call gives
its answer if there is one at once; otherwise the call is under way and answers
when it is polled at the right time. A poll looks first at what the call waits
for, then at its timeout, then at its scope, so that an answer that is there is
never lost to a timeout or an end of the same moment.
-/

import Taskyard.Yard.Basic

namespace Taskyard

/-- What an operation is asked to do. -/
inductive Request (Body : Type) where
  /-- Get a slot for a body and forget about it. -/
  | submit (body : Body)
  /-- Get a slot for a body and wait for its output, until the scope ends. -/
  | submitTask (scope : ScopeId) (body : Body)
  /-- Run the batch of a scope and wait for its outcome, until its timeout or the scope ends. -/
  | exec (scope : ScopeId)
  /-- Close the slots and wait for every job to end. -/
  | drain (timeout : Duration)
  /-- Wait for a scope to end. -/
  | watch (scope : ScopeId)

/-- What an operation answers. -/
inductive Reply where
  | submitted (result : Except PoolError Unit)
  | completed (output : Output)
  /-- There is no outcome if there was no batch. -/
  | executed (outcome : Option Outcome)
  | drained (result : Except PoolError Unit)
  | ended (reason : EndReason)

namespace Yard

variable {Body : Type}

/-! ### Bookkeeping -/

/-- A body has got its slot. -/
def enlist (yard : Yard Body) (purpose : Purpose) (body : Body) : Yard Body :=
  { yard with
    jobs := yard.jobs ++ [⟨⟨yard.jobCount⟩, purpose, body, false⟩]
    jobCount := yard.jobCount + 1 }

/-- Note how far a call has come. -/
def keep (yard : Yard Body) (id : CallId) (call : Call Body) : Yard Body :=
  { yard with calls := yard.calls.put id call }

/-- A call is over or given up. If it waited for a slot it does not any more. -/
def drop (yard : Yard Body) (id : CallId) : Yard Body :=
  { yard with
    slots := yard.slots.withdraw id
    calls := yard.calls.remove id }

/-- Whether a job works for a call. -/
def worksFor (id : CallId) (job : Job Body) : Bool :=
  match job.purpose with
  | .errand => false
  | .solo call | .member call _ _ => call = id

/-- Whether no job works for a call. -/
def isUnmanned (yard : Yard Body) (id : CallId) : Bool := !yard.jobs.any (worksFor id)

/-! ### One body -/

/-- Ask for a slot for a body of which nothing more is wanted. -/
def pollSubmit (yard : Yard Body) (id : CallId) (body : Body) (queued : Bool) :
    Option Reply × Yard Body :=
  match yard.slots.turn id queued with
  | (.admitted, slots) =>
    (some (.submitted (.ok ())), ({ yard with slots := slots }.enlist .errand body).drop id)
  | (.refused error, slots) =>
    (some (.submitted (.error error)), { yard with slots := slots }.drop id)
  | (.queued, slots) => (none, { yard with slots := slots }.keep id (.submit body))

/-- Look for the output of a body. -/
def pollSolo (yard : Yard Body) (id : CallId) (scope : ScopeId) (reply : Option Output) :
    Option Reply × Yard Body :=
  match reply with
  | some output => (some (.completed output), yard.drop id)
  | none => match yard.query scope with
    | (some reason, yard) => (some (.completed (.error (.scope reason))), yard.drop id)
    | (none, yard) => (none, yard.keep id (.solo scope none))

/-- Ask for a slot for a body whose output is wanted. -/
def pollSoloQueued (yard : Yard Body) (id : CallId) (scope : ScopeId) (body : Body)
    (queued : Bool) : Option Reply × Yard Body :=
  match yard.slots.turn id queued with
  | (.admitted, slots) =>
    ({ yard with slots := slots }.enlist (.solo id) body).pollSolo id scope none
  | (.refused error, slots) =>
    (some (.completed (.error (.submit error))), { yard with slots := slots }.drop id)
  | (.queued, slots) =>
    match { yard with slots := slots }.query scope with
    | (some reason, yard) => (some (.completed (.error (.scope reason))), yard.drop id)
    | (none, yard) => (none, yard.keep id (.soloQueued scope body))

/-! ### A batch -/

/-- Submit the tasks of a batch in order, until one has to wait for its slot. A refused task has
its entry in the outcome at once. -/
def dispatch (id : CallId) (batch : Batch Body) :
    Bool → List (Entry Body) → Yard Body → Outcome → Batch Body × Yard Body
  | _, [], yard, outcome =>
    ({ batch with unsubmitted := [], queued := false, outcome := outcome }, yard)
  | queued, entry :: rest, yard, outcome =>
    match yard.slots.turn id queued with
    | (.admitted, slots) =>
      dispatch id batch false rest
        ({ yard with slots := slots }.enlist (.member id entry.task batch.scope) entry.body) outcome
    | (.refused error, slots) =>
      dispatch id batch false rest
        ({ yard with slots := slots }.note (.notSubmitted batch.scope entry.task error))
        (outcome.record entry.task (.error (.submit error)))
    | (.queued, slots) =>
      ({ batch with unsubmitted := entry :: rest, queued := true, outcome := outcome },
        { yard with slots := slots })

/-- Enter the outputs that came in into the outcome. -/
def collect (scope : ScopeId) :
    List (TaskId × Output) → Yard Body → Outcome → Outcome × Yard Body
  | [], yard, outcome => (outcome, yard)
  | (task, output) :: rest, yard, outcome =>
    let noted := match output with
      | .error error => yard.note (.taskFailed scope task error)
      | .ok _ => yard
    collect scope rest noted (outcome.record task output)

/-- The batch is over, with this outcome. -/
def finish (yard : Yard Body) (id : CallId) (batch : Batch Body) (outcome : Outcome) :
    Option Reply × Yard Body :=
  (some (.executed (some outcome)),
    (yard.note (.finished batch.scope outcome.succeededCount outcome.size
      (yard.now - batch.begun))).drop id)

/-- Go on with a batch that is not complete, unless its timeout is over or its scope has ended.
Either way out gives every task the same error. -/
def awaitBatch (yard : Yard Body) (id : CallId) (batch : Batch Body) : Option Reply × Yard Body :=
  if batch.deadline ≤ yard.now then
    (yard.note (.timedOut batch.scope batch.timeout)).finish id batch
      (.failAll batch.tasks (.timeout batch.timeout))
  else match yard.query batch.scope with
    | (some reason, yard) =>
      (yard.note (.endedDuring batch.scope reason)).finish id batch
        (.failAll batch.tasks (.scope reason))
    | (none, yard) => (none, yard.keep id (.batch batch))

/-- Submit what can be submitted; when nothing is left to submit, look at what came in. The batch is
complete when in addition no job works for it any more. -/
def pollBatch (yard : Yard Body) (id : CallId) (batch : Batch Body) : Option Reply × Yard Body :=
  let (batch, yard) := dispatch id batch batch.queued batch.unsubmitted yard batch.outcome
  if batch.unsubmitted.isEmpty then
    let (outcome, yard) := collect batch.scope batch.inbox yard batch.outcome
    if yard.isUnmanned id then yard.finish id batch outcome
    else yard.awaitBatch id { batch with inbox := [], outcome := outcome }
  else yard.awaitBatch id batch

/-- Run a batch that was taken out of the backlog. Nothing of it runs if its scope has ended. -/
def beginBatch (yard : Yard Body) (id : CallId) (scope : ScopeId) (timeout : Duration)
    (entries : List (Entry Body)) : Option Reply × Yard Body :=
  let tasks := entries.map Entry.task
  match yard.query scope with
  | (some reason, yard) =>
    (some (.executed (some (.failAll tasks (.scope reason)))),
      yard.note (.endedBefore scope reason tasks.length))
  | (none, yard) =>
    (yard.note (.dispatched scope tasks.length timeout)).pollBatch id {
      scope := scope
      timeout := timeout
      begun := yard.now
      deadline := yard.now.timer timeout
      tasks := tasks
      unsubmitted := entries
      queued := false
      inbox := []
      outcome := .empty }

/-! ### Waiting for an end -/

/-- Look whether every job has ended. -/
def pollDrain (yard : Yard Body) (id : CallId) (timeout : Duration) (deadline : Option Duration) :
    Option Reply × Yard Body :=
  if yard.jobs.isEmpty then (some (.drained (.ok ())), yard.drop id)
  else if yard.hasPassed deadline then
    (some (.drained (.error (.releaseTimeout timeout))), yard.drop id)
  else (none, yard.keep id (.drain timeout deadline))

/-- Look whether a scope has ended. -/
def pollWatch (yard : Yard Body) (id : CallId) (scope : ScopeId) : Option Reply × Yard Body :=
  match yard.query scope with
  | (some reason, yard) => (some (.ended reason), yard.drop id)
  | (none, yard) => (none, yard.keep id (.watch scope))

/-! ### Any call -/

/-- Poll a call that is under way. -/
def poll (yard : Yard Body) (id : CallId) : Option Reply × Yard Body :=
  match yard.calls.get? id with
  | none => (none, yard)
  | some (.submit body) => yard.pollSubmit id body true
  | some (.soloQueued scope body) => yard.pollSoloQueued id scope body true
  | some (.solo scope reply) => yard.pollSolo id scope reply
  | some (.batch batch) => yard.pollBatch id batch
  | some (.drain timeout deadline) => yard.pollDrain id timeout deadline
  | some (.watch scope) => yard.pollWatch id scope

/-- Begin an operation. Without an answer the call is under way from now on. -/
def begin (yard : Yard Body) (request : Request Body) : CallId × Option Reply × Yard Body :=
  let id : CallId := ⟨yard.callCount⟩
  let yard := { yard with callCount := yard.callCount + 1 }
  (id, match request with
    | .submit body => yard.pollSubmit id body false
    | .submitTask scope body =>
      match yard.query scope with
      | (some reason, yard) => (some (.completed (.error (.scope reason))), yard)
      | (none, yard) => yard.pollSoloQueued id scope body false
    | .exec scope =>
      let (timeout, yard) := yard.takeTimeout
      match yard.takeBatch scope with
      | (none, yard) => (some (.executed none), yard.note (.nothingPending scope))
      | (some entries, yard) => yard.beginBatch id scope timeout entries
    | .drain timeout =>
      yard.closeSlots.pollDrain id timeout (yard.now.after? timeout)
    | .watch scope => yard.pollWatch id scope)

/-! ### When to poll -/

/-- Whether polling a call would bring it further. -/
def wouldProgress (yard : Yard Body) (id : CallId) : Call Body → Bool
  | .submit _ => yard.slots.hasNews id
  | .soloQueued scope _ => yard.slots.hasNews id || (yard.ended? scope).isSome
  | .solo scope reply => reply.isSome || (yard.ended? scope).isSome
  | .batch batch =>
    (if batch.unsubmitted.isEmpty then !batch.inbox.isEmpty || yard.isUnmanned id
      else yard.slots.hasNews id) ||
      decide (batch.deadline ≤ yard.now) || (yard.ended? batch.scope).isSome
  | .drain _ deadline => yard.jobs.isEmpty || yard.hasPassed deadline
  | .watch scope => (yard.ended? scope).isSome

/-- Whether a call is under way and polling it would bring it further. -/
def isReady (yard : Yard Body) (id : CallId) : Bool :=
  match yard.calls.get? id with
  | some call => yard.wouldProgress id call
  | none => false

/-- The moments at which time alone may bring a call further. -/
def callTimers (yard : Yard Body) : Call Body → List Duration
  | .submit _ => []
  | .soloQueued scope _ | .solo scope _ | .watch scope => (yard.scopes.deadline? scope).toList
  | .batch batch => batch.deadline :: (yard.scopes.deadline? batch.scope).toList
  | .drain _ deadline => deadline.toList

end Yard

end Taskyard

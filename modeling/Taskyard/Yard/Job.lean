/-
This file lets bodies that have a slot start and end. A body ends with a value,
an error or a panic, or it is dropped because the scope of its batch has ended.
In every case the slot is free again at once, and what came of the body has
reached the call that waits for it, if there still is one.

A body that somebody waits for runs under a guard, which catches its panic. The
error of a task of a batch is made into a report under the guard as well. The
error of a body that was submitted by itself is made into one outside, where a
panic is caught only together with those of bodies that nobody waits for.
-/

import Taskyard.Yard.Call

namespace Taskyard

/-- What a panic carries: a message, or something that has none. -/
inductive Payload where
  | message (text : String)
  | other
deriving DecidableEq, Repr

/-- The message that stands for a panic in reports. -/
def Payload.text : Payload → String
  | .message text => text
  | .other => "未知 panic"

/-- How a body ends. -/
inductive Ending where
  | returned (value : Value)
  | failed (cause : Report)
  | panicked (payload : Payload)
  /-- It fails, and what should make a report of its error panics instead. -/
  | unreported (payload : Payload)
deriving DecidableEq, Repr

namespace Ending

/-- What the end of a body means to whoever waits for its batch. -/
def output : Ending → Output
  | .returned value => .ok value
  | .failed cause => .error (.failed cause)
  | .panicked payload | .unreported payload => .error (.panicked payload.text)

/-- What the end of a body means to whoever waits for it alone. An error of which there is no report
leaves nothing behind, which reads as if the slots were closed. -/
def reply : Ending → Output
  | .unreported _ => .error (.submit .closed)
  | ending => ending.output

/-- What reaches whoever waits for a body. -/
def outputFor (ending : Ending) : Purpose → Output
  | .solo _ => ending.reply
  | .errand | .member _ _ _ => ending.output

/-- The panic that no guard has caught at the end of a body. -/
def uncaught? (ending : Ending) : Purpose → Option Payload
  | .errand => match ending with
    | .panicked payload => some payload
    | .returned _ | .failed _ | .unreported _ => none
  | .solo _ => match ending with
    | .unreported payload => some payload
    | .returned _ | .failed _ | .panicked _ => none
  | .member _ _ _ => none

@[simp]
theorem outputFor_returned (value : Value) (purpose : Purpose) :
    (returned value).outputFor purpose = .ok value := by
  cases purpose <;> rfl

@[simp]
theorem uncaught?_returned (value : Value) (purpose : Purpose) :
    (returned value).uncaught? purpose = none := by
  cases purpose <;> rfl

/-- No body says that its scope has ended. -/
theorem outputFor_ne_scope (ending : Ending) (purpose : Purpose) (reason : EndReason) :
    ending.outputFor purpose ≠ .error (.scope reason) := by
  cases purpose <;> cases ending <;> simp [outputFor, reply, output]

end Ending

namespace Call

variable {Body : Type}

/-- A call that waits for one output gets it. -/
def answer (output : Output) : Call Body → Call Body
  | .solo scope none => .solo scope (some output)
  | call => call

/-- A call that waits for the outputs of a batch gets one of them. -/
def receive (task : TaskId) (output : Output) : Call Body → Call Body
  | .batch held => .batch { held with inbox := held.inbox ++ [(task, output)] }
  | call => call

end Call

namespace Yard

variable {Body : Type}

/-- The job with an id. -/
def job? (yard : Yard Body) (id : JobId) : Option (Job Body) :=
  yard.jobs.find? fun job => job.id = id

/-- A body that has a slot starts. -/
def startJob (yard : Yard Body) (id : JobId) : Yard Body :=
  { yard with jobs := yard.jobs.map fun job =>
      if job.id = id then { job with started := true } else job }

/-- A job gives its slot back. -/
def discharge (yard : Yard Body) (id : JobId) : Yard Body :=
  { yard with
    jobs := yard.jobs.filter fun job => job.id ≠ id
    slots := yard.slots.leave }

/-- Change a call that is under way. -/
def amend (yard : Yard Body) (id : CallId) (change : Call Body → Call Body) : Yard Body :=
  { yard with calls := yard.calls.amend id change }

/-- A panic that no guard has caught goes into the journal and to whoever wants to hear of panics.
If whoever hears of it panics in turn, the slot is given back all the same. -/
def reportPanic (yard : Yard Body) : Option Payload → Yard Body
  | some payload =>
    let noted := yard.note (.bodyPanicked payload.text)
    if yard.options.panicHandler then
      { noted with reported := noted.reported ++ [payload.text] }
    else noted
  | none => yard

/-- Hand what came of a body to whom it may concern. -/
def deliver (yard : Yard Body) (purpose : Purpose) (ending : Ending) : Yard Body :=
  let reported := yard.reportPanic (ending.uncaught? purpose)
  match purpose with
  | .errand => reported
  | .solo call => reported.amend call (Call.answer (ending.outputFor purpose))
  | .member call task _ => reported.amend call (Call.receive task (ending.outputFor purpose))

/-- A body that has started ends. -/
def finishJob (yard : Yard Body) (id : JobId) (ending : Ending) : Yard Body :=
  match yard.job? id with
  | none => yard
  | some job =>
    if job.started then (yard.deliver job.purpose ending).discharge id else yard

/-- Why a job has no reason to go on: the scope of its batch has ended. -/
def overtaken? (yard : Yard Body) (job : Job Body) : Option EndReason :=
  match job.purpose with
  | .member _ _ scope => yard.ended? scope
  | .errand | .solo _ => none

/-- Drop a body of a batch whose scope has ended. Other bodies stay. -/
def abandonJob (yard : Yard Body) (id : JobId) : Yard Body :=
  match yard.job? id with
  | none => yard
  | some job =>
    match job.purpose with
    | .errand | .solo _ => yard
    | .member call task scope =>
      match yard.query scope with
      | (none, yard) => yard
      | (some reason, yard) =>
        (yard.amend call (Call.receive task (.error (.scope reason)))).discharge id

/-- The moments at which time alone may drop a job. -/
def jobTimers (yard : Yard Body) (job : Job Body) : List Duration :=
  match job.purpose with
  | .member _ _ scope => (yard.scopes.deadline? scope).toList
  | .errand | .solo _ => []

end Yard

end Taskyard

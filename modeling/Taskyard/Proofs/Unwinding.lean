/-
This file takes the end of a body apart into what happens at it one after the
other, any of which may break off with a panic. A panic is caught in two places.
The unit around a body that somebody waits for catches it first and makes an
output of it. Whatever gets past the unit is caught by the worker, which reports
it; and if whoever hears of it panics in turn, that panic is caught by nobody.
The slot is given back on every way out, so all of this together is one event,
whoever hears of panics and whatever comes of that.

The guard in a unit does not reach equally far everywhere. In a batch it is
around the making of a report as well, so that nothing ever gets past the unit.
For a body that is run by itself the report is made outside of it.
-/

import Taskyard.Proofs.Order.Jobs

namespace Taskyard

variable {Body : Type}

namespace Yard

end Yard

/-- Something that is done with a yard and may break off with a panic. -/
abbrev Course (Body : Type) := ExceptT Payload (StateM (Yard Body))

/-- Whoever hears of panics may panic at a message. -/
abbrev Hearing := String → Option Payload

namespace Course

/-- A yard is changed, and nothing breaks off. -/
def change (change : Yard Body → Yard Body) : Course Body Unit := modify change

/-- What is left of a yard after something was done with it, and how it broke off if it did. -/
def leaves {Result : Type} (course : Course Body Result) (yard : Yard Body) :
    Except Payload Result × Yard Body := course.run.run yard

/-- What a body has come to: a value, or an error. Making a report of the error either gives one or
panics. -/
abbrev Upshot := Except (Except Payload Report) Value

/-- A body ends: with a result, or with a panic that breaks off what was to follow. -/
def occur : Ending → Course Body Upshot
  | .returned value => return .ok value
  | .failed cause => return .error (.ok cause)
  | .unreported payload => return .error (.error payload)
  | .panicked payload => throw payload

/-- A report is made of the error, if there is one. -/
def settle : Upshot → Course Body Output
  | .ok value => return .ok value
  | .error (.ok cause) => return .error (.failed cause)
  | .error (.error payload) => throw payload

/-- Something is done, and its panic is caught. -/
def guarded {Item : Type} (course : Course Body Item) : Course Body (Except TaskError Item) := do
  match ← observing course with
  | .ok result => return .ok result
  | .error payload => return .error (.panicked payload.text)

/-- The guard of a body that is run by itself lets the result out before the report is made. -/
def alone (ending : Ending) : Course Body Output := do
  match ← guarded (occur ending) with
  | .ok result => settle result
  | .error error => return .error error

/-- The guard of a body of a batch is around the making of the report as well. -/
def together (ending : Ending) : Course Body Output := do
  match ← guarded (do settle (← occur ending)) with
  | .ok output => return output
  | .error error => return .error error

/-- A body ends in its unit, which sends the output to whoever waits for it. A unit that breaks off
takes its end of the line with it, which reads like the answer of closed slots. -/
def unit : Purpose → Ending → Course Body Unit
  | .errand, ending => discard (occur ending)
  | .solo call, ending => do
    match ← observing (alone ending) with
    | .ok output => change fun yard => yard.amend call (Call.answer output)
    | .error payload => do
      change fun yard => yard.amend call (Call.answer (.error (.submit .closed)))
      throw payload
  | .member call task _, ending => do
    let output ← together ending
    change fun yard => yard.amend call (Call.receive task output)

/-- Whoever wants to hear of panics is told of one, and may panic at that. -/
def tell (hearing : Hearing) (payload : Payload) : Course Body Unit := do
  change fun yard => { yard with reported := yard.reported ++ [payload.text] }
  match hearing payload.text with
  | some raised => throw raised
  | none => return

/-- A panic is noted, and told to whoever wants to hear of panics. -/
def report (hearing : Hearing) (payload : Payload) : Course Body Unit := do
  change fun yard => yard.note (.bodyPanicked payload.text)
  if (← get).options.panicHandler then tell hearing payload

/-- Something is done, and its panic is caught and dealt with. -/
def caught (course : Course Body Unit) (deal : Payload → Course Body Unit) : Course Body Unit := do
  match ← observing course with
  | .ok _ => return
  | .error payload => deal payload

/-- A worker has a body end. What gets past the unit is caught and reported, and the slot is given
back on whichever way out. -/
def work (hearing : Hearing) (job : Job Body) (ending : Ending) : Course Body Unit :=
  tryFinally (caught (unit job.purpose ending) (report hearing))
    (change fun yard => yard.discharge job.id)

end Course

namespace Yard

end Yard

end Taskyard

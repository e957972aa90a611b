/-
This file runs scenarios: a pool or a part of one, and acts that the main line
does with it one after the other. After every act everything that can happen at
that moment happens; then it is observed what the act answered, what the clock
shows, in which state the facility is, and what has come up since the last
observation.
-/

import Taskyard.Workload.Schedule

namespace Taskyard

/-- Who hears of bodies that panic. -/
inductive Listener where
  | nobody
  | recorder
  /-- Panics itself, and so keeps nothing. -/
  | panicker
deriving DecidableEq, Repr

/-- A pool or a part of one, and what to do with it. -/
structure Scenario where
  facility : Facility
  options : Options
  listener : Listener
  acts : List (Act Step)

/-- What is seen after an act. Records, messages and notes are those since the last observation. -/
structure Observation where
  answer : Answer
  moment : Duration
  status : Status
  records : List Record
  /-- Messages that the listener kept, in the order of their texts. -/
  heard : List String
  notes : List Note

namespace Scenario

/-- The options of the yard. A listener of either kind counts as one. -/
def yardOptions (scenario : Scenario) : Options :=
  { scenario.options with panicHandler := decide (scenario.listener ≠ .nobody) }

/-- The world at the start. A whole pool notes its opening. -/
def open? (scenario : Scenario) : Except PoolError World := do
  let yard ← match scenario.facility with
    | .pool => Yard.openNoted? scenario.yardOptions
    | .slots | .backlog | .scopes => Yard.open? scenario.yardOptions
  return .ofYard yard scenario.facility

/-- What the listener kept of the messages that it was told. -/
def kept (listener : Listener) (messages : List String) : List String :=
  match listener with
  | .recorder => messages.mergeSort fun first second => decide (first ≤ second)
  | .nobody | .panicker => []

/-- Observe the world after an act. -/
def observe (listener : Listener) (answer : Answer) (world : World) : Observation where
  answer := answer
  moment := world.yard.now
  status := world.facility.status world.yard
  records := world.records
  heard := kept listener world.yard.reported
  notes := world.yard.journal

/-- Forget what has been observed. -/
def observed (world : World) : World :=
  { world with
    records := []
    yard := { world.yard with journal := [], reported := [] } }

/-- Do the acts of the main line. -/
def runActs (listener : Listener) : World → List (Act Step) → List Observation
  | _, [] => []
  | world, act :: rest =>
    let (answer, world) := world.perform act
    let world := world.settle
    observe listener answer world :: runActs listener (observed world) rest

/-- Run a scenario: the notes at its opening, and an observation for every act. -/
def run (scenario : Scenario) : Except PoolError (List Note × List Observation) := do
  let world ← scenario.open?
  return (world.yard.journal, runActs scenario.listener (observed world) scenario.acts)

end Scenario

end Taskyard

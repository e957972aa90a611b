/-
This file holds the language in which work for a yard is written down. A step is
one thing to do with the yard, its scopes or the clock. Tasks are pushed or
submitted with a script: acts in order, and how the body ends after them. An act
is a step with its circumstances: under which tag its answer is recorded, how
long it may take, and whether it goes on by itself in the background.
-/

import Taskyard.Journal
import Taskyard.Value

namespace Taskyard

/-- How a script ends after its acts. -/
inductive Finish where
  | returns (value : Value)
  /-- Returns the name of its scope, followed by a text. -/
  | returnsScope (text : String)
  | fails (cause : Report)
  /-- Panics with a message, or with something that has none. -/
  | panics (message : Option String)
  | hangs
deriving DecidableEq, Repr

/-- A step with its circumstances. -/
structure Act (Step : Type) where
  step : Step
  tag : Option String
  /-- How many milliseconds the step may take, if that is limited. -/
  limit : Option Nat
  /-- The handle under which the step goes on in the background. -/
  background : Option String

/-- What a body does: it may panic when it is called, and otherwise does its acts and ends. -/
structure Script (Step : Type) where
  name : String
  callPanic : Option String
  acts : List (Act Step)
  finish : Finish

/-- Where the scope of a new name comes from. -/
inductive ScopeSource where
  | fresh
  | timeout (span : Duration)
  | deadline (moment : Duration)
  | child (parent : String)
  | childTimeout (parent : String) (span : Duration)
  | clone (known : String)
deriving DecidableEq, Repr

/-- One thing to do. Scopes, outcomes and background operations go by names. -/
inductive Step where
  | openScope (name : String) (source : ScopeSource)
  | cancel (scope : String)
  | reason (scope : String)
  | isEnded (scope : String)
  | awaitEnd (scope : String)
  | deadline (scope : String)
  | describe (scope : String)
  | compare (first second : String)
  | push (scope : String) (task : Script Step)
  | pushAll (scope : String) (tasks : List (Script Step))
  | pending (scope : String)
  | discard (scope : String)
  | clear
  | take (scope : String)
  | exec (scope : String) (save : Option String)
  | outcome (of : String)
  | outcomeDetail (of : String)
  | result (of task : String) (kind : Kind)
  | takeResult (of task : String) (kind : Kind)
  | errorOf (of task : String)
  | submit (task : Script Step)
  | submitTask (scope : String) (task : Script Step)
  | status
  | setTimeout (span : Duration)
  | timeout
  | release
  | releaseTimeout (span : Duration)
  | sleep (span : Duration)
  | sleepUntil (moment : Duration)
  | mark
  | join (handle : String) (wait : Duration)
  | peek (handle : String)
  | abort (handle : String)
  /-- Write a note into the journal. -/
  | say (level : Level) (text : String)

/-- What a body does. -/
abbrev Task := Script Step

/-- An act without circumstances. -/
def Step.plain (step : Step) : Act Step := ⟨step, none, none, none⟩

/-- How many milliseconds a step may take where nothing is said of it. -/
def Act.usualLimit : Nat := 1000000

/-- How many milliseconds a join waits where nothing is said of it. -/
def Step.usualWait : Nat := 100000

/-! ### How much there is to do -/

mutual

/-- How many steps there are in a step, those of its tasks included. -/
def Step.weight : Step → Nat
  | .push _ task | .submit task | .submitTask _ task => task.weight + 1
  | .pushAll _ tasks => Task.weightOfAll tasks + 1
  | _ => 1

def Task.weightOfAll : List (Script Step) → Nat
  | [] => 0
  | task :: rest => task.weight + Task.weightOfAll rest

def Script.weight : Script Step → Nat
  | ⟨_, _, acts, _⟩ => Act.weightOfAll acts + 1

def Act.weightOfAll : List (Act Step) → Nat
  | [] => 0
  | act :: rest => act.weight + Act.weightOfAll rest

def Act.weight : Act Step → Nat
  | ⟨step, _, _, _⟩ => step.weight

end

end Taskyard

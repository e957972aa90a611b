/-
This file holds the state of a workload at work: the yard, the names that the
workload gave to scopes, outcomes and background operations, and its agents. An
agent is whoever does acts one after the other: the main line, an operation in
the background, or a body that has started. Between two polls an agent waits for
one thing.
-/

import Taskyard.Workload.Answer
import Taskyard.Workload.Step

namespace Taskyard

/-- What an agent is, and hence who hears of its answers. -/
inductive Role where
  | main
  | background (serial : Nat)
  | job (id : JobId)
deriving DecidableEq, Repr

/-- What an agent waits for. -/
inductive Obstacle where
  | clock (moment : Duration)
  | call (id : CallId)
  /-- A background operation, until a moment. -/
  | join (serial : Nat) (moment : Duration)
  | never
deriving DecidableEq, Repr

/-- An act that is under way. -/
structure Wait where
  on : Obstacle
  /-- When the act is dropped. -/
  limit : Option Duration
  tag : Option String
  /-- The name under which an outcome is saved. -/
  save : Option String
deriving DecidableEq, Repr

/-- Whoever does acts one after the other. -/
structure Agent where
  serial : Nat
  role : Role
  /-- The scope that the body was given. -/
  self : Option ScopeId
  wait : Option Wait
  rest : List (Act Step)
  finish : Finish

/-- How far a background operation has come. -/
inductive Fate where
  | running
  | finished (answer : Answer)
  | aborted

def Fate.isOver : Fate → Bool
  | .running => false
  | .finished _ | .aborted => true

/-- A background operation: the name it goes by, and how far it has come. -/
structure Handle where
  name : String
  serial : Nat
  fate : Fate

/-- The answer of an act with a tag, and when it was given. -/
structure Record where
  moment : Duration
  tag : String
  answer : Answer

/-- A workload at work. -/
structure World where
  yard : Yard Task
  facility : Facility
  scopes : Listing String ScopeId
  outcomes : Listing String Outcome
  handles : List Handle
  /-- The agents, the oldest first. -/
  agents : List Agent
  agentCount : Nat
  records : List Record
  /-- The answer of the main line's act, once it is there. -/
  answer : Option Answer

namespace World

/-- The world before anything was done. -/
def ofYard (yard : Yard Task) (facility : Facility) : World where
  yard := yard
  facility := facility
  scopes := []
  outcomes := []
  handles := []
  agents := []
  agentCount := 0
  records := []
  answer := none

/-! ### Names -/

/-- The scope of a name. A body calls the scope that it was given `self`. -/
def scope? (world : World) (self : Option ScopeId) (name : String) : Option ScopeId :=
  if name = "self" then self else world.scopes.get? name

def nameScope (world : World) (name : String) (scope : ScopeId) : World :=
  { world with scopes := world.scopes.put name scope }

def saveOutcome (world : World) (name : String) (outcome : Outcome) : World :=
  { world with outcomes := world.outcomes.put name outcome }

def handle? (world : World) (name : String) : Option Handle :=
  world.handles.find? fun handle => handle.name = name

def handleOf? (world : World) (serial : Nat) : Option Handle :=
  world.handles.find? fun handle => handle.serial = serial

def dropHandle (world : World) (serial : Nat) : World :=
  { world with handles := world.handles.filter fun handle => handle.serial ≠ serial }

/-- Set how far a background operation has come. -/
def setFate (world : World) (serial : Nat) (fate : Fate) : World :=
  { world with handles := world.handles.map fun handle =>
      if handle.serial = serial then { handle with fate := fate } else handle }

/-! ### Agents -/

/-- Add an agent that is about to do its acts. -/
def addAgent (world : World) (role : Role) (self : Option ScopeId) (acts : List (Act Step))
    (finish : Finish) : World :=
  { world with
    agents := world.agents ++ [⟨world.agentCount, role, self, none, acts, finish⟩]
    agentCount := world.agentCount + 1 }

def agent? (world : World) (serial : Nat) : Option Agent :=
  world.agents.find? fun agent => agent.serial = serial

/-- Note what an agent waits for, and what is left for it to do. -/
def suspend (world : World) (serial : Nat) (wait : Wait) (rest : List (Act Step)) : World :=
  { world with agents := world.agents.map fun agent =>
      if agent.serial = serial then { agent with wait := some wait, rest := rest } else agent }

def removeAgent (world : World) (serial : Nat) : World :=
  { world with agents := world.agents.filter fun agent => agent.serial ≠ serial }

/-- Start an act in the background. An older operation of that name goes on without one. -/
def spawn (world : World) (name : String) (self : Option ScopeId) (act : Act Step) : World :=
  let handles := world.handles.filter fun handle => handle.name ≠ name
  { world with handles := ⟨name, world.agentCount, .running⟩ :: handles }.addAgent
    (.background world.agentCount) self [act.step.plain] .hangs

/-- Give up what was waited for. -/
def giveUp (world : World) : Obstacle → World
  | .call id => { world with yard := world.yard.drop id }
  | .clock _ | .join _ _ | .never => world

/-- Stop an agent where it waits. -/
def stopAgent (world : World) (agent : Agent) : World :=
  match agent.wait with
  | some wait => (world.giveUp wait.on).removeAgent agent.serial
  | none => world.removeAgent agent.serial

/-- Whoever has to hears the answer of an act. -/
def deliver (world : World) (role : Role) (tag : Option String) (answer : Answer) : World :=
  match role, tag with
  | .main, _ => { world with answer := some answer }
  | .background serial, _ => world.setFate serial (.finished answer)
  | .job _, some tag =>
    { world with records := world.records ++ [⟨world.yard.now, tag, answer⟩] }
  | .job _, none => world

end World

end Taskyard

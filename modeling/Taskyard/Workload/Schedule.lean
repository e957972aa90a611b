/-
This file lets a workload go on. Agents do their acts until one of them has to
wait, and are polled again when what they wait for may be there, when their time
is up, or when the scope of their batch has ended. A round polls everybody who
is ready, the oldest first, and then starts the bodies that got a slot. The
clock moves only when nobody is ready, and then straight to the next moment at
which somebody may be.
-/

import Taskyard.Workload.Perform

namespace Taskyard

namespace World

/-! ### Agents that do their acts -/

/-- How a script ends, unless it goes on for ever. -/
def endingOf? (self : Option ScopeId) : Finish → Option Ending
  | .returns value => some (.returned value)
  | .returnsScope text =>
    some (.returned (.text ((self.map ScopeId.shown).getD "" ++ " " ++ text)))
  | .fails cause => some (.failed cause)
  | .panics (some message) => some (.panicked (.message message))
  | .panics none => some (.panicked .other)
  | .hangs => none

/-- The body of a job ends. -/
def finishJob (world : World) (id : JobId) (ending : Ending) : World :=
  { world with yard := world.yard.finishJob id ending }

/-- An agent has done all its acts. -/
def conclude (world : World) (agent : Agent) : World :=
  match agent.role with
  | .main | .background _ => world.removeAgent agent.serial
  | .job id =>
    match endingOf? agent.self agent.finish with
    | some ending => (world.removeAgent agent.serial).finishJob id ending
    | none => world.suspend agent.serial ⟨.never, none, none, none⟩ []

/-- An agent panics in the middle of an act. -/
def collapse (world : World) (agent : Agent) (message : String) : World :=
  match agent.role with
  | .main | .background _ =>
    (world.removeAgent agent.serial).deliver agent.role none (.panicked message)
  | .job id => (world.removeAgent agent.serial).finishJob id (.panicked (.message message))

/-- Until when an act may take. A body may sleep as long as it likes. -/
def limitOf (world : World) (role : Role) (act : Act Step) : Option Duration :=
  match role, act.step with
  | .job _, .sleep _ | .job _, .sleepUntil _ => none
  | _, _ => act.limit.map fun limit => world.yard.now + Duration.ofMillis limit

/-- The name under which the outcome of a step is saved. -/
def saveOf : Step → Option String
  | .exec _ save => save
  | _ => none

/-- Do acts until one of them has to wait. An act that may take no time at all waits no longer than
its beginning. -/
def proceed (world : World) (agent : Agent) : List (Act Step) → World
  | [] => world.conclude agent
  | act :: rest =>
    match act.background with
    | some name =>
      ((world.spawn name agent.self act).deliver agent.role act.tag .spawned).proceed agent rest
    | none =>
      match world.begin agent.self act.step with
      | (.answered answer, world) => (world.deliver agent.role act.tag answer).proceed agent rest
      | (.panicked message, world) => world.collapse agent message
      | (.waiting obstacle, world) =>
        let wait : Wait := ⟨obstacle, world.limitOf agent.role act, act.tag, saveOf act.step⟩
        if world.isOver wait then
          ((world.giveUp obstacle).deliver agent.role act.tag .pending).proceed agent rest
        else world.suspend agent.serial wait rest

/-! ### Bodies of a batch whose scope has ended -/

/-- Whether an agent does the body of a batch whose scope has ended. -/
def isOvertaken (world : World) (agent : Agent) : Bool :=
  match agent.role with
  | .main | .background _ => false
  | .job id => ((world.yard.job? id).bind world.yard.overtaken?).isSome

/-- Drop an agent that does the body of a batch, where it waits. -/
def abandon (world : World) (agent : Agent) : World :=
  let world := world.stopAgent agent
  match agent.role with
  | .main | .background _ => world
  | .job id => { world with yard := world.yard.abandonJob id }

/-! ### Polls -/

/-- Let an agent go on with its acts. -/
def enact (world : World) (serial : Nat) : World :=
  match world.agent? serial with
  | none => world
  | some agent => world.proceed agent agent.rest

/-- Poll an agent. -/
def pollAgent (world : World) (serial : Nat) : World :=
  match world.agent? serial with
  | none => world
  | some agent =>
    if world.isOvertaken agent then world.abandon agent
    else match agent.wait with
      | none => world.proceed agent agent.rest
      | some wait =>
        match world.lookInTime wait with
        | (some answer, world) =>
          (world.deliver agent.role wait.tag answer).proceed agent agent.rest
        | (none, world) => world

/-- The scope that a body is given. -/
def scopeOf : Purpose → Option ScopeId
  | .errand | .solo _ => none
  | .member _ _ scope => some scope

/-- Start a body that has a slot. Nothing says whether a body that is about to start or the end of
its scope is looked at first. Here it is the body: it does its acts until it has to wait, and only
then is it dropped if its scope has ended before. -/
def pollJob (world : World) (id : JobId) : World :=
  match world.yard.job? id with
  | none => world
  | some job =>
    if job.started then world
    else
      let started := { world with yard := world.yard.startJob id }
      match job.body.callPanic with
      | some message => started.finishJob id (.panicked (.message message))
      | none =>
        let serial := world.agentCount
        let begun :=
          started.addAgent (.job id) (scopeOf job.purpose) job.body.acts job.body.finish
        let acting := begun.enact serial
        if (world.yard.overtaken? job).isSome then acting.pollAgent serial else acting

/-! ### Rounds -/

/-- Whether what an agent waits for may be there. -/
def isGone (world : World) : Obstacle → Bool
  | .clock moment => moment ≤ world.yard.now
  | .call id => world.yard.isReady id
  | .join serial moment =>
    decide (moment ≤ world.yard.now) ||
      match world.handleOf? serial with
      | some handle => handle.fate.isOver
      | none => true
  | .never => false

/-- Whether polling an agent would bring it further. -/
def isReady (world : World) (agent : Agent) : Bool :=
  world.isOvertaken agent ||
    match agent.wait with
    | none => true
    | some wait => world.isOver wait || world.isGone wait.on

/-- The agents that are ready, the oldest first. -/
def ready (world : World) : List Nat :=
  (world.agents.filter world.isReady).map Agent.serial

/-- The jobs that have not started, the oldest first. -/
def unstarted (world : World) : List JobId :=
  (world.yard.jobs.filter fun job => !job.started).map Job.id

/-- Whether nothing can happen at this moment. -/
def isIdle (world : World) : Bool := world.ready.isEmpty && world.unstarted.isEmpty

/-- Do one thing after another, until the main line has its answer. -/
def untilAnswered {Item : Type} (poll : World → Item → World) : List Item → World → World
  | [], world => world
  | item :: rest, world =>
    if world.answer.isSome then world else untilAnswered poll rest (poll world item)

/-- Poll every agent that is ready, and start every body that has a slot. -/
def round (world : World) : World :=
  let polled := untilAnswered pollAgent world.ready world
  untilAnswered pollJob polled.unstarted polled

/-- Rounds, until nothing can happen at this moment, but no more than a number. -/
def settleWithin : Nat → World → World
  | 0, world => world
  | rounds + 1, world => if world.isIdle then world else settleWithin rounds world.round

/-! ### The clock -/

/-- The moments at which time alone may bring an agent further. -/
def agentTimers (world : World) (agent : Agent) : List Duration :=
  match agent.wait with
  | none => []
  | some wait =>
    wait.limit.toList ++ match wait.on with
      | .clock moment | .join _ moment => [moment]
      | .call id => match world.yard.calls.get? id with
        | some call => world.yard.callTimers call
        | none => []
      | .never => []

/-- The moments at which time alone may bring anything further. -/
def timers (world : World) : List Duration :=
  world.agents.flatMap world.agentTimers ++ world.yard.jobs.flatMap world.yard.jobTimers

/-- The next moment at which something may happen. -/
def nextMoment? (world : World) : Option Duration :=
  match world.timers.filter fun moment => world.yard.now < moment with
  | [] => none
  | first :: rest => some (rest.foldl Duration.earlier first).firstTick

/-- Rounds, and between them jumps of the clock, until the main line has its answer or nothing is
left to happen, but no more than a number. -/
def awaitWithin : Nat → World → World
  | 0, world => world
  | rounds + 1, world =>
    if world.answer.isSome then world
    else if world.isIdle then
      match world.nextMoment? with
      | some moment => awaitWithin rounds { world with yard := world.yard.advanceTo moment }
      | none => world
    else awaitWithin rounds world.round

theorem awaitWithin_of_answer {world : World} (answered : world.answer.isSome = true)
    (rounds : Nat) : awaitWithin rounds world = world := by
  cases rounds <;> simp [awaitWithin, answered]

/-! ### How many rounds there can be -/

/-- The bodies that a call may still submit. -/
def bodiesOf : Call Task → List Task
  | .submit body | .soloQueued _ body => [body]
  | .batch batch => batch.unsubmitted.map Entry.body
  | .solo _ _ | .drain _ _ | .watch _ => []

/-- The outputs that a call has not looked at yet. -/
def outputsOf : Call Task → List (TaskId × Output)
  | .batch batch => batch.inbox
  | .submit _ | .soloQueued _ _ | .solo _ _ | .drain _ _ | .watch _ => []

/-- How much there is left to do: acts of agents, bodies that may start, and what they and the calls
may still bring about. -/
def work (world : World) : Nat :=
  let calls := world.yard.calls.map Prod.snd
  let pushed := world.yard.backlog.batches.flatMap Prod.snd
  Act.weightOfAll (world.agents.flatMap Agent.rest) +
    Task.weightOfAll (world.yard.jobs.map Job.body) +
    Task.weightOfAll (pushed.map Entry.body) +
    Task.weightOfAll (calls.flatMap bodiesOf) +
    (calls.flatMap outputsOf).length +
    world.agents.length + world.yard.jobs.length + calls.length

/-- More rounds than there can be: each one brings some agent, body or call further, and each of
them goes only so far. -/
def rounds (world : World) : Nat := 16 * world.work + 64

/-- Let everything happen that can happen at this moment. -/
def settle (world : World) : World := settleWithin world.rounds world

/-- Let the main line have its answer. -/
def await (world : World) : World := awaitWithin world.rounds world

/-! ### The main line -/

/-- Do an act of the main line, and give its answer. -/
def perform (world : World) (act : Act Step) : Answer × World :=
  let serial := world.agentCount
  let done := ((world.addAgent .main none [act] .hangs).pollAgent serial).await
  (done.answer.getD .nothing, { done with answer := none })

end World

end Taskyard

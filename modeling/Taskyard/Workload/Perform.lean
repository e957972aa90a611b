/-
This file says what every step does. Most steps are done at once. Those that may
have to wait begin a call of the yard, or wait for the clock or for a background
operation.
-/

import Taskyard.Workload.World

namespace Taskyard

/-- What comes of beginning a step. -/
inductive Beginning where
  | answered (answer : Answer)
  | waiting (on : Obstacle)
  | panicked (message : String)

namespace World

/-! ### Answers of the yard -/

/-- The answer that a reply of the yard is, with the outcome saved under a name if it is one. -/
def receive (world : World) (save : Option String) : Reply → Answer × World
  | .submitted (.ok ()) | .drained (.ok ()) => (.accepted, world)
  | .submitted (.error error) | .drained (.error error) => (.refused error, world)
  | .completed (.ok value) => (.completed value, world)
  | .completed (.error error) => (.failed error, world)
  | .executed none => (.nothing, world)
  | .executed (some outcome) =>
    (.outcome outcome, match save with
      | some name => world.saveOutcome name outcome
      | none => world)
  | .ended reason => (.reason reason, world)

/-- Begin an operation of the yard. -/
def request (world : World) (save : Option String) (request : Request Task) : Beginning × World :=
  match world.yard.begin request with
  | (_, some reply, yard) =>
    let (answer, world) := { world with yard := yard }.receive save reply
    (.answered answer, world)
  | (id, none, yard) => (.waiting (.call id), { world with yard := yard })

/-! ### Scopes -/

/-- The message of a panic about a moment that the clock cannot count to. -/
def overflowMessage : String := "overflow when adding duration to instant"

/-- Open a scope and give it a name. -/
def named (world : World) (name : String) (descent : Yard.Descent) : Beginning × World :=
  let (scope, yard) := world.yard.openScope descent
  (.answered (.opened scope), { world with yard := yard }.nameScope name scope)

/-- Open a scope that lasts for some time from now on, and give it a name. -/
def namedFor (world : World) (name : String) (span : Duration)
    (descent : Duration → Yard.Descent) : Beginning × World :=
  match world.yard.now.after? span with
  | some deadline => world.named name (descent deadline)
  | none => (.panicked overflowMessage, world)

/-- Make a name stand for a scope. -/
def openNamed (world : World) (self : Option ScopeId) (name : String) :
    ScopeSource → Beginning × World
  | .fresh => world.named name .root
  | .timeout span => world.namedFor name span .rootBefore
  | .deadline moment => world.named name (.rootBefore moment)
  | .child parent =>
    match world.scope? self parent with
    | some parent => world.named name (.child parent)
    | none => (.answered .nothing, world)
  | .childTimeout parent span =>
    match world.scope? self parent with
    | some parent => world.namedFor name span (.childBefore parent)
    | none => (.answered .nothing, world)
  | .clone known =>
    match world.scope? self known with
    | some scope => (.answered (.opened scope), world.nameScope name scope)
    | none => (.answered .nothing, world)

/-! ### Tasks -/

/-- Push a task; the backlog by itself takes every task. -/
def pushTask (world : World) (scope : ScopeId) (task : Task) : Answer × World :=
  if world.facility = .backlog then
    let (id, yard) := world.yard.store scope task.name task
    (.pushed id, { world with yard := yard })
  else
    match world.yard.push scope task.name task with
    | (.ok id, yard) => (.pushed id, { world with yard := yard })
    | (.error error, yard) => (.refused error, { world with yard := yard })

def pushTasks (world : World) (scope : ScopeId) : List Task → List Answer × World
  | [] => ([], world)
  | task :: rest =>
    let (answer, world) := world.pushTask scope task
    let (answers, world) := world.pushTasks scope rest
    (answer :: answers, world)

/-! ### Saved outcomes -/

/-- Read a saved outcome. -/
def readOutcome (world : World) (name : String) (read : Outcome → Answer) : Answer :=
  match world.outcomes.get? name with
  | some outcome => read outcome
  | none => .nothing

/-- The value of a task of an outcome, looked at or taken out. -/
def valueAnswer : Option Value → Answer
  | some value => .value value
  | none => .nothing

def takeSaved (world : World) (name label : String) (kind : Kind) : Answer × World :=
  match world.outcomes.get? name with
  | none => (.nothing, world)
  | some outcome =>
    match outcome.taskNamed? label with
    | none => (.nothing, world)
    | some task =>
      let (value, outcome) := outcome.takeResult task kind
      (valueAnswer value, world.saveOutcome name outcome)

/-! ### Background operations -/

/-- Drop a background operation where it waits, unless it is over. -/
def abort (world : World) (name : String) : World :=
  match world.handle? name with
  | some ⟨_, serial, .running⟩ =>
    let stopped := match world.agent? serial with
      | some agent => world.stopAgent agent
      | none => world
    stopped.setFate serial .aborted
  | _ => world

/-- The answer of a background operation. If it is over its handle is used up. -/
def joined (world : World) (serial : Nat) (moment : Duration) : Option Answer × World :=
  match world.handleOf? serial with
  | none => (some .noHandle, world)
  | some ⟨_, _, .finished answer⟩ => (some answer, world.dropHandle serial)
  | some ⟨_, _, .aborted⟩ => (some .aborted, world.dropHandle serial)
  | some ⟨_, _, .running⟩ =>
    if moment ≤ world.yard.now then (some .pending, world) else (none, world)

/-! ### Steps -/

/-- Answer at once with something about a scope, if its name stands for one. -/
def withScope (world : World) (self : Option ScopeId) (name : String)
    (answer : ScopeId → Beginning × World) : Beginning × World :=
  match world.scope? self name with
  | some scope => answer scope
  | none => (.answered .nothing, world)

/-- A change of the yard that answers nothing. -/
def changed (world : World) (yard : Yard Task) : Beginning × World :=
  (.answered .nothing, { world with yard := yard })

/-- Wait for a moment of the clock, unless it has passed. -/
def sleepUntil (world : World) (moment : Duration) : Beginning × World :=
  if moment ≤ world.yard.now then (.answered .nothing, world)
  else (.waiting (.clock moment), world)

/-- Begin a step. -/
def begin (world : World) (self : Option ScopeId) : Step → Beginning × World
  | .openScope name source => world.openNamed self name source
  | .cancel name => world.withScope self name fun scope => world.changed (world.yard.cancel scope)
  | .reason name => world.withScope self name fun scope =>
      let (reason, yard) := world.yard.query scope
      (.answered (match reason with
        | some reason => .reason reason
        | none => .nothing), { world with yard := yard })
  | .isEnded name => world.withScope self name fun scope =>
      let (reason, yard) := world.yard.query scope
      (.answered (.flag reason.isSome), { world with yard := yard })
  | .awaitEnd name => world.withScope self name fun scope => world.request none (.watch scope)
  | .deadline name => world.withScope self name fun scope =>
      (.answered (match world.yard.scopes.deadline? scope with
        | some deadline => .millis deadline.millis
        | none => .nothing), world)
  | .describe name => world.withScope self name fun scope => (.answered (.described scope), world)
  | .compare first second => world.withScope self first fun first =>
      world.withScope self second fun second => (.answered (.compared first second), world)
  | .push name task => world.withScope self name fun scope =>
      let (answer, world) := world.pushTask scope task
      (.answered answer, world)
  | .pushAll name tasks => world.withScope self name fun scope =>
      let (answers, world) := world.pushTasks scope tasks
      (.answered (.several answers), world)
  | .pending name => world.withScope self name fun scope =>
      (.answered (.count (world.yard.pending scope)), world)
  | .discard name => world.withScope self name fun scope =>
      let (count, yard) := world.yard.discard scope
      (.answered (.count count), { world with yard := yard })
  | .clear =>
    let (count, yard) := world.yard.clear
    (.answered (.count count), { world with yard := yard })
  | .take name => world.withScope self name fun scope =>
      let (batch, yard) := world.yard.takeBatch scope
      (.answered (match batch with
        | some entries => .taken (entries.map fun entry => (entry.task, entry.detail))
        | none => .nothing), { world with yard := yard })
  | .exec name save => world.withScope self name fun scope => world.request save (.exec scope)
  | .outcome name => (.answered (world.readOutcome name .outcome), world)
  | .outcomeDetail name =>
    (.answered (world.readOutcome name fun outcome => .text outcome.detail), world)
  | .result name label kind =>
    (.answered (world.readOutcome name fun outcome =>
      valueAnswer ((outcome.taskNamed? label).bind fun task => outcome.result? task kind)), world)
  | .takeResult name label kind =>
    let (answer, world) := world.takeSaved name label kind
    (.answered answer, world)
  | .errorOf name label =>
    (.answered (world.readOutcome name fun outcome =>
      match (outcome.taskNamed? label).bind outcome.error? with
      | some error => .failed error
      | none => .nothing), world)
  | .submit task => world.request none (.submit task)
  | .submitTask name task => world.withScope self name fun scope =>
      world.request none (.submitTask scope task)
  | .status => (.answered (.status (world.facility.status world.yard)), world)
  | .setTimeout span => world.changed (world.yard.setTimeout span)
  | .timeout => (.answered (.span world.yard.timeout), world)
  | .release =>
    world.changed (if world.facility = .slots then world.yard.closeSlots else world.yard.release)
  | .releaseTimeout span =>
    let yard := if world.facility = .slots then world.yard else world.yard.release
    { world with yard := yard }.request none (.drain span)
  | .sleep span => world.sleepUntil (world.yard.now + span)
  | .sleepUntil moment => world.sleepUntil moment
  | .mark => (.answered .nothing, world)
  | .join name wait =>
    match world.handle? name with
    | none => (.answered .noHandle, world)
    | some handle =>
      let moment := world.yard.now + wait
      match world.joined handle.serial moment with
      | (some answer, world) => (.answered answer, world)
      | (none, world) => (.waiting (.join handle.serial moment), world)
  | .peek name =>
    (.answered (match world.handle? name with
      | some handle => .flag (handle.fate.isOver)
      | none => .nothing), world)
  | .abort name => (.answered .nothing, world.abort name)
  | .say level text => world.changed (world.yard.note (.said level text))

/-- Look whether what an agent waits for is there. -/
def look (world : World) (wait : Wait) : Option Answer × World :=
  match wait.on with
  | .clock moment => (if moment ≤ world.yard.now then some .nothing else none, world)
  | .call id =>
    match world.yard.poll id with
    | (some reply, yard) =>
      let (answer, world) := { world with yard := yard }.receive wait.save reply
      (some answer, world)
    | (none, yard) => (none, { world with yard := yard })
  | .join serial moment => world.joined serial moment
  | .never => (none, world)

/-- Whether the time of a wait is up. -/
def isOver (world : World) (wait : Wait) : Bool :=
  match wait.limit with
  | some limit => limit ≤ world.yard.now
  | none => false

/-- Look whether what an agent waits for is there, and whether it has waited too long. What is there
counts even at the last moment. -/
def lookInTime (world : World) (wait : Wait) : Option Answer × World :=
  match world.look wait with
  | (some answer, world) => (some answer, world)
  | (none, world) =>
    if world.isOver wait then (some .pending, world.giveUp wait.on) else (none, world)

end World

end Taskyard

/-
This file holds the application that shows what a pool can do. A run submits a
body that nobody waits for, then one whose output it waits for, then three as a
batch, and reports what came of them in the journal. Between its steps the
application does not let others go first: what it has submitted runs while it
waits itself.
-/

import Taskyard.Settings
import Taskyard.Workload.Schedule

namespace Taskyard

/-- The application: its settings, and its pool at work. -/
structure Application where
  settings : Settings
  world : World

namespace Application

/-- The application with a pool as its settings want it. -/
def open? (settings : Settings) : Except AppError Application :=
  match Yard.openNoted? settings.options with
  | .ok yard => .ok ⟨settings, .ofYard yard .pool⟩
  | .error error => .error (.pool error)

def moment (app : Application) : Duration := app.world.yard.now

def status (app : Application) : Status := app.world.facility.status app.world.yard

def journal (app : Application) : List Note := app.world.yard.journal

/-- Write into the journal. -/
def say (app : Application) (level : Level) (text : String) : Application :=
  { app with world := { app.world with yard := app.world.yard.note (.said level text) } }

/-- Do a step, and wait for its answer as long as it takes. -/
def perform (app : Application) (step : Step) : Answer × Application :=
  let (answer, world) := app.world.perform step.plain
  (answer, { app with world := world })

/-! ### What others do with the pool -/

/-- Submit a body that sleeps, and do not care what comes of it. Its time runs from now on, also
while it waits for a slot. -/
def occupy (app : Application) (span : Duration) : Application :=
  let sleeping := Step.plain (.sleepUntil (app.moment + span))
  (app.perform (.submit ⟨"sleep", none, [sleeping], .returns .unit⟩)).2

def release (app : Application) : Application := (app.perform .release).2

def setTimeout (app : Application) (timeout : Duration) : Application :=
  (app.perform (.setTimeout timeout)).2

/-! ### Tasks of the run -/

/-- Says that it was run. -/
def greeting : Task :=
  ⟨"greeting", none, [Step.plain (.say .info "后台任务已执行")], .returns .unit⟩

/-- Returns the sum of two numbers. -/
def adding (name : String) (first second : Int64) : Task :=
  ⟨name, none, [], .returns (.int64 (first + second))⟩

/-- Returns the name of its scope and a text. -/
def labelling (name text : String) : Task := ⟨name, none, [], .returnsScope text⟩

/-! ### The batch -/

/-- The label of the next task that is pushed: tasks are counted from one. -/
def nextLabel (app : Application) : String := "id" ++ toString (app.world.yard.taskCount + 1)

/-- Push a task for the batch. A refusal is reported. -/
def pushTask (app : Application) (task : String → Task) : Option TaskId × Application :=
  match app.perform (.push "batch" (task app.nextLabel)) with
  | (.pushed task, app) => (some task, app)
  | (.refused error, app) => (none, app.say .warn ("暂存任务失败: " ++ error.message))
  | (_, app) => (none, app)

/-- Report what a task that adds came to. -/
def reportSum (outcome : Outcome) (app : Application) (task : TaskId) : Application :=
  match outcome.error? task, outcome.result? task .int64 with
  | some error, _ => app.say .warn ("任务 " ++ task.shown ++ " 失败: " ++ error.message)
  | none, some (.int64 sum) =>
    app.say .info ("任务 " ++ task.shown ++ " => " ++ toString sum.toInt)
  | none, _ => app.say .warn ("任务 " ++ task.shown ++ " 没有返回值")

/-- Report the text that a task returned, if it did. -/
def reportLabel (outcome : Outcome) (app : Application) (task : TaskId) : Application :=
  match outcome.result? task .text with
  | some (.text text) => app.say .info ("任务 " ++ task.shown ++ " => " ++ text)
  | _ => app

/-- Report the outcome of the batch. -/
def reportOutcome (app : Application) (sums label : List TaskId) (outcome : Outcome) :
    Application :=
  let app := sums.foldl (reportSum outcome) app
  let app := label.foldl (reportLabel outcome) app
  app.say .info
    ("✓ 批量执行完成: 成功 " ++ toString outcome.succeededCount ++ "/" ++ toString outcome.size)

/-- Push three tasks and run them as a batch. -/
def runBatch (app : Application) : Application :=
  let (_, app) := app.perform (.openScope "batch" .fresh)
  let (first, app) := app.pushTask fun name => adding name 1 2
  let (second, app) := app.pushTask fun name => adding name 10 20
  let (label, app) := app.pushTask fun name => labelling name "批量任务"
  match app.perform (.exec "batch" none) with
  | (.outcome outcome, app) =>
    app.reportOutcome (first.toList ++ second.toList) label.toList outcome
  | (_, app) => app.say .warn "没有待执行的任务"

/-! ### The run -/

def banner (app : Application) : Application :=
  let line := String.ofList (List.replicate 60 '=')
  ((app.say .info line).say .info
    ("📊 任务池容量: " ++ toString app.settings.pool.size)).say .info line

/-- Report how busy the pool is. -/
def reportStatus (app : Application) : Application :=
  let slots := app.world.yard.slots
  app.say .info ("运行中 " ++ toString slots.running ++ " / 容量 " ++ toString slots.capacity)

/-- Run one task, under a scope that lasts for a second, and report what it returned. -/
def runSingle (app : Application) : Except TaskError Unit × Application :=
  let (_, app) := app.perform (.openScope "single" (.timeout (.ofSeconds 1)))
  match app.perform (.submitTask "single" (adding "single" 3 4)) with
  | (.failed error, app) => (.error error, app)
  | (.completed (.int64 sum), app) =>
    (.ok (), app.say .info ("单任务结果: " ++ toString sum.toInt))
  | (_, app) => (.ok (), app)

/-- Run the application. It ends early when the pool refuses its first body or when the single task
has no value; what becomes of the batch is only reported. -/
def run (app : Application) : Except AppError Unit × Application :=
  match app.banner.perform (.submit greeting) with
  | (.refused error, app) => (.error (.pool error), app)
  | (_, app) =>
    match app.runSingle with
    | (.error error, app) => (.error (.task error), app)
    | (.ok (), app) => (.ok (), app.runBatch.reportStatus)

/-- How long a shutdown waits for bodies that run. -/
def patience : Duration := .ofSeconds 5

/-- Release the pool and wait for the bodies that run. -/
def shutdown (app : Application) : Except AppError Unit × Application :=
  match app.perform (.releaseTimeout patience) with
  | (.refused error, app) => (.error (.pool error), app)
  | (_, app) => (.ok (), app.say .info "✅ 任务池已关闭")

end Application

end Taskyard

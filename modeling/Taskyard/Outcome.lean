/-
This file holds the outcome of a batch: for every task either its value or why
it has none. Values may be taken out of an outcome one by one; what the outcome
says of errors and counts does not change by that.
-/

import Taskyard.Backlog
import Taskyard.Value

namespace Taskyard

/-- What a task came to. -/
abbrev Output := Except TaskError Value

/-- The outcome of a batch: the values of the tasks that have one, and for every task its error,
which is none for those that succeeded. -/
structure Outcome where
  results : Listing TaskId Value
  errors : Listing TaskId (Option TaskError)
deriving DecidableEq, Repr

namespace Outcome

def empty : Outcome := ⟨[], []⟩

/-- Every task failed with the same error. -/
def failAll (tasks : List TaskId) (error : TaskError) : Outcome :=
  ⟨[], tasks.map fun task => (task, some error)⟩

/-- Note what a task came to. -/
def record (outcome : Outcome) (task : TaskId) (output : Output) : Outcome :=
  match output with
  | .ok value => ⟨outcome.results.put task value, outcome.errors.put task none⟩
  | .error error => { outcome with errors := outcome.errors.put task (some error) }

/-! ### Reading -/

/-- The value of a task, if it is there and of the kind that the reader expects. -/
def result? (outcome : Outcome) (task : TaskId) (kind : Kind) : Option Value :=
  (outcome.results.get? task).bind fun value => value.read? kind

/-- Take the value of a task out. Only then its kind is looked at, and a value of another kind is
put back. -/
def takeResult (outcome : Outcome) (task : TaskId) (kind : Kind) : Option Value × Outcome :=
  match outcome.results.get? task with
  | none => (none, outcome)
  | some value =>
    let rest := outcome.results.remove task
    match value.read? kind with
    | some value => (some value, { outcome with results := rest })
    | none => (none, { outcome with results := rest.put task value })

/-- The error of a task, if it is there and failed. -/
def error? (outcome : Outcome) (task : TaskId) : Option TaskError :=
  (outcome.errors.get? task).join

def tasks (outcome : Outcome) : List TaskId := outcome.errors.keys

def size (outcome : Outcome) : Nat := outcome.errors.length

def failedCount (outcome : Outcome) : Nat :=
  outcome.errors.countP fun entry => entry.2.isSome

def succeededCount (outcome : Outcome) : Nat := outcome.size - outcome.failedCount

def isSuccess (outcome : Outcome) : Bool := outcome.failedCount == 0

/-- The task that a label stands for. -/
def taskNamed? (outcome : Outcome) (label : String) : Option TaskId :=
  outcome.tasks.find? fun task => task.label = label

/-- A batch that failed as a whole has an entry for every task, and all of them are errors. -/
theorem tasks_failAll (tasks : List TaskId) (error : TaskError) :
    (failAll tasks error).tasks = tasks := by
  simp [failAll, Outcome.tasks, Listing.keys, Function.comp_def]

/-- Taking values out changes no error. -/
theorem errors_takeResult (outcome : Outcome) (task : TaskId) (kind : Kind) :
    (outcome.takeResult task kind).2.errors = outcome.errors := by
  unfold takeResult
  split
  · rfl
  · dsimp only
    split <;> rfl

/-! ### Text -/

/-- Pairs between braces. -/
def pairsText (pairs : List (String × String)) : String :=
  "\x7b" ++ String.intercalate ", " (pairs.map fun pair => pair.1 ++ ": " ++ pair.2) ++ "\x7d"

def errorDetail : Option TaskError → String
  | some error => "Some(" ++ error.detail ++ ")"
  | none => "None"

def detail (outcome : Outcome) : String :=
  "BatchOutcome \x7b results: " ++
    pairsText (outcome.results.map fun entry => (entry.1.detail, entry.2.detail)) ++
    ", errors: " ++
    pairsText (outcome.errors.map fun entry => (entry.1.detail, errorDetail entry.2)) ++ " \x7d"

end Outcome

end Taskyard

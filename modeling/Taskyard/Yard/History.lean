/-
This file lets a yard have a history: the events that happen to it, one after
the other, whoever causes them and in whatever order. Nothing is said of who
polls when; a history may leave a call unpolled for as long as it likes, poll it
in vain, or drop it. What holds after every history therefore holds for every
way of taking turns.

A yard is quiet when nothing more can happen to it at this moment, except that a
body that has started goes on or somebody asks for something new.
-/

import Taskyard.Yard.Job

namespace Taskyard

/-- Something that happens to a yard. -/
inductive Event (Body : Type) where
  /-- The clock shows a later time. -/
  | tick (moment : Duration)
  | openScope (descent : Yard.Descent)
  | cancel (scope : ScopeId)
  /-- Somebody asks why a scope has ended. -/
  | query (scope : ScopeId)
  | push (scope : ScopeId) (label : String) (body : Body)
  | discard (scope : ScopeId)
  | setTimeout (timeout : Duration)
  | release
  | begin (request : Request Body)
  | poll (call : CallId)
  /-- Somebody gives up a call. -/
  | drop (call : CallId)
  | start (job : JobId)
  | finish (job : JobId) (ending : Ending)
  /-- A body of a batch notices that its scope has ended. -/
  | abandon (job : JobId)

namespace Yard

variable {Body : Type}

/-- A yard after an event. -/
def step (yard : Yard Body) : Event Body → Yard Body
  | .tick moment => yard.advanceTo moment
  | .openScope descent => (yard.openScope descent).2
  | .cancel scope => yard.cancel scope
  | .query scope => (yard.query scope).2
  | .push scope label body => (yard.push scope label body).2
  | .discard scope => (yard.discard scope).2
  | .setTimeout timeout => yard.setTimeout timeout
  | .release => yard.release
  | .begin request => (yard.begin request).2.2
  | .poll call => (yard.poll call).2
  | .drop call => yard.drop call
  | .start job => yard.startJob job
  | .finish job ending => yard.finishJob job ending
  | .abandon job => yard.abandonJob job

/-- A yard after a history. -/
def after (yard : Yard Body) (history : List (Event Body)) : Yard Body := history.foldl step yard

/-- Whether a yard is one that was opened with these options and had some history. -/
def Reached (options : Options) (yard : Yard Body) : Prop :=
  ∃ start history, openNoted? options = .ok start ∧ yard = after start history

theorem after_nil (yard : Yard Body) : yard.after [] = yard := rfl

theorem after_cons (yard : Yard Body) (event : Event Body) (history : List (Event Body)) :
    yard.after (event :: history) = (yard.step event).after history := rfl

theorem after_append (yard : Yard Body) (first second : List (Event Body)) :
    yard.after (first ++ second) = (yard.after first).after second :=
  List.foldl_append

/-- A property that holds at the opening and is kept by every event holds of every yard that was
reached. -/
theorem Reached.induction {options : Options} {property : Yard Body → Prop}
    (atOpening : ∀ start, openNoted? options = .ok start → property start)
    (kept : ∀ yard event, property yard → property (yard.step event))
    {yard : Yard Body} (reached : Reached options yard) : property yard := by
  obtain ⟨start, history, opened, rfl⟩ := reached
  have holds := atOpening start opened
  clear opened
  induction history generalizing start with
  | nil => exact holds
  | cons event history inductionHypothesis =>
    exact inductionHypothesis (start.step event) (kept start event holds)

/-- Whether a job could start or be dropped at this moment. -/
def canTurn (yard : Yard Body) (job : Job Body) : Bool :=
  !job.started || (yard.overtaken? job).isSome

/-- Whether nothing more can happen at this moment by itself. -/
def isQuiet (yard : Yard Body) : Bool :=
  !(yard.calls.any fun entry => yard.wouldProgress entry.1 entry.2) && !yard.jobs.any yard.canTurn

end Yard

end Taskyard

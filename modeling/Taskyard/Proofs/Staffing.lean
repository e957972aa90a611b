/-
This file says what an event does to the jobs. A call that is dealt with may get
new ones, which come last and have not started; a job may start; or a job is
over, because its body has ended or was dropped. Nothing else happens to jobs,
and slots that are closed give nobody a new one. They stay closed, whatever
happens.
-/

import Taskyard.Proofs.Batches
import Taskyard.Proofs.Starts

namespace Taskyard

variable {Body : Type}

namespace Yard

variable {yard : Yard Body} {id : CallId}

/-! ### Closed slots -/

/-- Where the slots are closed every body that is to be placed is refused. -/
theorem place_closed (id : CallId) (queued : Bool) (assignments : List (Assignment Body))
    (floor : Floor Body) (closed : floor.slots.closed = true) :
    (floor.place id queued assignments).left = [] ∧
      (floor.place id queued assignments).floor.jobs = floor.jobs := by
  induction assignments generalizing queued floor with
  | nil => exact ⟨rfl, rfl⟩
  | cons first rest inductionHypothesis =>
    obtain ⟨slots, refused, still⟩ := turn_closed closed id queued
    simp only [Floor.place, refused]
    exact inductionHypothesis false { floor with slots := slots } still

theorem closed_prepared (request : Request Body) (closed : yard.slots.closed = true) :
    (yard.prepared request).slots.closed = true := by
  cases request with
  | drain timeout => rfl
  | submit body => exact closed
  | submitTask scope body => exact closed
  | exec scope => exact closed
  | watch scope => exact closed

/-- Slots that are closed stay so. -/
theorem Kept.closed_step (kept : yard.Kept) (closed : yard.slots.closed = true)
    (event : Event Body) : (yard.step event).slots.closed = true := by
  have surrounded : ∀ {before later : Yard Body}, later.surroundings = before.surroundings →
      before.slots.closed = true → later.slots.closed = true := fun same closed =>
    (congrArg Surroundings.closed same).trans closed
  cases event with
  | tick moment =>
    obtain ⟨now, -, moved⟩ := advanceTo_eq yard moment
    rwa [Yard.step, moved]
  | push scope label body =>
    obtain ⟨scopes, backlog, taskCount, journal, -, pushed⟩ := push_eq yard scope label body
    rwa [Yard.step, pushed]
  | release => rfl
  | begin request =>
    exact surrounded (kept.surroundings_begin request) (closed_prepared request closed)
  | poll call => exact surrounded (kept.surroundings_poll call) closed
  | drop call => exact (yard.slots.withdraw_frame call).2.1.trans closed
  | finish job ending =>
    exact surrounded (kept.inOrder.finishJob job ending).surroundings closed
  | abandon job => exact surrounded (kept.inOrder.abandonJob job).surroundings closed
  | openScope | cancel | query | discard | setTimeout | start => exact closed

theorem Kept.closed_after (kept : yard.Kept) (closed : yard.slots.closed = true)
    (history : List (Event Body)) : (yard.after history).slots.closed = true := by
  induction history using List.reverseRecOn with
  | nil => exact closed
  | append_singleton earlier event inductionHypothesis =>
    rw [after_concat]
    exact (kept.after earlier).closed_step inductionHypothesis event

/-! ### What an event does to the jobs -/

/-- What an event may do to the jobs. -/
inductive Staffs (yard : Yard Body) (event : Event Body) : Prop
  | hires (recruits : List (Job Body)) (jobs : (yard.step event).jobs = yard.jobs ++ recruits)
      (idle : ∀ job ∈ recruits, job.started = false)
      (none : yard.slots.closed = true → recruits = [])
      (starts : yard.starting event = [])
  | starts (id : JobId) (event : event = .start id)
  | dismisses (job : Job Body) (member : job ∈ yard.jobs)
      (about : event = .abandon job.id ∨
        ∃ ending, event = .finish job.id ending ∧ job.started = true)
      (jobs : (yard.step event).jobs = yard.jobs.filter fun other => other.id ≠ job.id)

theorem Staffs.same {event : Event Body} (jobs : (yard.step event).jobs = yard.jobs)
    (starts : yard.starting event = []) : yard.Staffs event :=
  .hires [] (jobs.trans (List.append_nil _).symm) (List.forall_mem_nil _)
    (fun _ => rfl) starts

/-- A call that is dealt with may get new jobs, unless the slots are closed. -/
theorem Places.hires {queued : Bool} {assignments : List (Assignment Body)} {before : Yard Body}
    {result : Option Reply × Yard Body} (places : Places id queued assignments before result) :
    ∃ recruits, result.2.jobs = before.jobs ++ recruits ∧
      (∀ job ∈ recruits, job.started = false) ∧
      (before.slots.closed = true → recruits = []) := by
  obtain ⟨recruits, jobs, idle, -⟩ := exists_recruits id queued assignments before.floor
  refine ⟨recruits, places.parts.jobs.trans jobs, idle, fun closed => ?_⟩
  rw [(place_closed id queued assignments before.floor closed).2] at jobs
  exact List.append_right_eq_self.mp jobs.symm

theorem Kept.staffs (kept : yard.Kept) (event : Event Body) : yard.Staffs event := by
  cases event with
  | tick moment =>
    obtain ⟨now, -, moved⟩ := advanceTo_eq yard moment
    exact .same (by rw [Yard.step, moved]) rfl
  | push scope label body =>
    obtain ⟨scopes, backlog, taskCount, journal, -, pushed⟩ := push_eq yard scope label body
    exact .same (by rw [Yard.step, pushed]) rfl
  | begin request =>
    obtain ⟨recruits, jobs, idle, none⟩ := (kept.places_begin request).hires
    rw [jobs_prepared] at jobs
    exact .hires recruits jobs idle (fun closed => none (closed_prepared request closed)) rfl
  | poll id =>
    cases found : yard.calls.get? id with
    | none => exact .same (by rw [Yard.step, poll_of_absent found]) rfl
    | some call =>
      obtain ⟨recruits, jobs, idle, none⟩ := (places_poll found).hires
      exact .hires recruits jobs idle none rfl
  | start id => exact .starts id rfl
  | finish id ending =>
    rcases finishJob_cases yard id ending with
      same | ⟨job, member, rfl, started, journal, reported, retired⟩
    · exact .same (by rw [Yard.step, same]) rfl
    · refine .dismisses job member (.inr ⟨ending, rfl, started⟩) ?_
      rw [Yard.step, retired, jobs_retire]
  | abandon id =>
    rcases abandonJob_cases yard id with
      same | ⟨job, member, rfl, call, task, scope, reason, -, -, retired⟩
    · exact .same (by rw [Yard.step, same]) rfl
    · refine .dismisses job member (.inl rfl) ?_
      rw [Yard.step, retired, jobs_retire]
  | openScope | cancel | query | discard | setTimeout | release | drop => exact .same rfl rfl

end Yard

end Taskyard

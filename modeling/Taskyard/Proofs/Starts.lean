/-
This file counts the starts of bodies. A body that may still start is one that
has its slot and has not started, or one for which a call wants a slot. Only an
operation that begins adds to them, and every start takes one of them away; so
does the refusal of a slot. However the events of a history follow each other,
no body therefore starts more often than it was asked for, and one that was
refused, or went away with its call, does not start any more.
-/

import Mathlib.Data.List.Flatten
import Taskyard.Proofs.Chronicle
import Taskyard.Proofs.Order.Bystanders
import Taskyard.Proofs.Order.Placing

namespace Taskyard

variable {Body : Type}

theorem Call.assignments_hear (purpose : Purpose) (output : Output) (call : Call Body)
    (id : CallId) : (call.hear purpose output).assignments id = call.assignments id := by
  unfold hear answer receive
  repeat' split
  all_goals rfl

namespace Yard

variable {yard : Yard Body} {id : CallId}

/-! ### Bodies that may still start -/

/-- The bodies of the jobs that have not started. -/
def ready (jobs : List (Job Body)) : List (Assignment Body) :=
  (jobs.filter fun job => !job.started).map Job.assignment

/-- The bodies for which calls want slots. -/
def wanted (calls : Listing CallId (Call Body)) : List (Assignment Body) :=
  calls.flatMap fun entry => entry.2.assignments entry.1

/-- The bodies that may still start. -/
def outstanding (yard : Yard Body) : List (Assignment Body) := ready yard.jobs ++ wanted yard.calls

/-- The jobs that an event starts. -/
def starting (yard : Yard Body) : Event Body → List (Job Body)
  | .start id => yard.jobs.filter fun job => job.id = id && !job.started
  | _ => []

/-- The bodies for which an event asks that they be run. -/
def ordering (yard : Yard Body) : Event Body → List (Assignment Body)
  | .begin request => yard.assignments request
  | _ => []

theorem ready_append (jobs more : List (Job Body)) :
    ready (jobs ++ more) = ready jobs ++ ready more := by
  rw [ready, List.filter_append, List.map_append, ready, ready]

theorem ready_of_idle {jobs : List (Job Body)} (idle : ∀ job ∈ jobs, job.started = false) :
    ready jobs = jobs.map Job.assignment :=
  congrArg (List.map Job.assignment) (List.filter_eq_self.mpr fun job member => by
    simp [idle job member])

/-- What may still start after a call was dealt with, of the bodies that somebody counts: what could
before, and what the call had to place, without what was refused. -/
theorem Places.outstanding {queued : Bool} {assignments : List (Assignment Body)}
    {before : Yard Body} {result : Option Reply × Yard Body}
    (places : Places id queued assignments before result)
    (distinct : before.calls.keys.Nodup) : ∃ refused : List (Assignment Body),
    result.2.refusals = before.refusals ++
      refused.filterMap (fun assignment => assignment.purpose.task?) ∧
    ∀ mine : Assignment Body → Bool,
      result.2.outstanding.countP mine + refused.countP mine ≤
        (ready before.jobs).countP mine + assignments.countP mine +
          (wanted (before.calls.remove id)).countP mine := by
  obtain ⟨parts, refusals⟩ := places
  refine ⟨_, refusals, fun mine => ?_⟩
  obtain ⟨recruits, jobs, idle, accounted, -⟩ :=
    exists_recruits id queued assignments before.floor
  have calls := calls_place id queued assignments before.floor
  generalize before.floor.place id queued assignments = placed at parts jobs calls accounted ⊢
  have counted := accounted.countP_eq mine
  have readied : (ready result.2.jobs).countP mine =
      (ready before.jobs).countP mine + (recruits.map Job.assignment).countP mine := by
    rw [parts.jobs, jobs, ready_append, List.countP_append, ready_of_idle idle]
    rfl
  have rest : (wanted result.2.calls).countP mine ≤
      placed.left.countP mine + (wanted (before.calls.remove id)).countP mine := by
    cases parts with
    | @gone reply yard same =>
      have gone : yard.calls = before.calls.remove id :=
        (congrArg Floor.calls same).trans (congrArg (Listing.remove id) calls)
      show (wanted yard.calls).countP mine ≤ _
      rw [gone]
      exact Nat.le_add_left _ _
    | @kept yard call assignments same =>
      have kept : yard.calls = before.calls.put id call :=
        (congrArg Floor.calls same).trans (congrArg (Listing.put id call) calls)
      have put : (wanted (before.calls.put id call)).Perm
          (call.assignments id ++ wanted (before.calls.remove id)) :=
        Listing.perm_flatMap_put distinct
      show (wanted yard.calls).countP mine ≤ _
      refine Nat.le_of_eq ?_
      rw [kept, put.countP_eq, List.countP_append, assignments]
  simp only [Yard.outstanding, List.countP_append] at counted ⊢
  omega

/-! ### What an event does to them -/

/-- The books of what may still start, between two yards: what was ordered in between covers what
has started and what was refused. -/
def Balances (before later : Yard Body) (ordered started : List (Assignment Body)) : Prop :=
  ∃ refused : List (Assignment Body),
    later.refusals = before.refusals ++
      refused.filterMap (fun assignment => assignment.purpose.task?) ∧
    ∀ mine : Assignment Body → Bool,
      later.outstanding.countP mine + started.countP mine + refused.countP mine ≤
        before.outstanding.countP mine + ordered.countP mine

theorem Balances.of_le {before later : Yard Body} (refusals : later.refusals = before.refusals)
    (fewer : ∀ mine, later.outstanding.countP mine ≤ before.outstanding.countP mine) :
    before.Balances later [] [] :=
  ⟨[], refusals.trans (List.append_nil _).symm, fun mine => fewer mine⟩

theorem Balances.of_same {before later : Yard Body} (refusals : later.refusals = before.refusals)
    (jobs : later.jobs = before.jobs) (calls : later.calls = before.calls) :
    before.Balances later [] [] := by
  refine .of_le refusals fun mine => Nat.le_of_eq ?_
  rw [outstanding, outstanding, jobs, calls]

theorem Balances.trans {first second third : Yard Body}
    {ordered started orderedLater startedLater : List (Assignment Body)}
    (early : first.Balances second ordered started)
    (late : second.Balances third orderedLater startedLater) :
    first.Balances third (ordered ++ orderedLater) (started ++ startedLater) := by
  obtain ⟨refused, refusals, counts⟩ := early
  obtain ⟨refusedLater, refusalsLater, countsLater⟩ := late
  refine ⟨refused ++ refusedLater, ?_, fun mine => ?_⟩
  · rw [refusalsLater, refusals, List.append_assoc, List.filterMap_append]
  · have counted := counts mine
    have countedLater := countsLater mine
    simp only [List.countP_append]
    omega

theorem Balances.weaken {before later : Yard Body} {ordered more started : List (Assignment Body)}
    (balances : before.Balances later ordered started) (sublist : ordered.Sublist more) :
    before.Balances later more started := by
  obtain ⟨refused, refusals, counts⟩ := balances
  exact ⟨refused, refusals, fun mine =>
    Nat.le_trans (counts mine) (Nat.add_le_add_left sublist.countP_le _)⟩

theorem Kept.balances_begin (kept : yard.Kept) (request : Request Body) :
    yard.Balances (yard.begin request).2.2 (yard.offered request) [] := by
  obtain ⟨-, -, absent⟩ := kept.inOrder.fresh
  have distinct : (yard.prepared request).calls.keys.Nodup := by
    rw [calls_prepared]
    exact kept.inOrder.callsDistinct
  obtain ⟨refused, refusals, counts⟩ := (kept.places_begin request).outstanding distinct
  refine ⟨refused, ?_, fun mine => ?_⟩
  · have silent : (yard.prepared request).refusals = yard.refusals := by
      cases request with
      | drain timeout => exact refusals_note rfl _
      | submit body => rfl
      | submitTask scope body => rfl
      | exec scope => rfl
      | watch scope => rfl
    rw [refusals, silent]
  · have counted := counts mine
    rw [jobs_prepared, calls_prepared,
      Listing.remove_of_not_mem (Listing.get?_eq_none_iff.mp absent)] at counted
    simp only [Yard.outstanding, List.countP_append, List.countP_nil] at counted ⊢
    omega

theorem Kept.balances_poll (kept : yard.Kept) (id : CallId) :
    yard.Balances (yard.poll id).2 [] [] := by
  cases found : yard.calls.get? id with
  | none =>
    rw [poll_of_absent found]
    exact .of_same rfl rfl rfl
  | some call =>
    obtain ⟨refused, refusals, counts⟩ :=
      (places_poll found).outstanding kept.inOrder.callsDistinct
    refine ⟨refused, refusals, fun mine => ?_⟩
    have counted := counts mine
    have own : (wanted yard.calls).Perm
        (call.assignments id ++ wanted (yard.calls.remove id)) :=
      Listing.perm_flatMap kept.inOrder.callsDistinct found
    have split := own.countP_eq mine
    simp only [Yard.outstanding, List.countP_append, List.countP_nil] at counted split ⊢
    omega

theorem balances_drop (yard : Yard Body) (id : CallId) : yard.Balances (yard.drop id) [] [] := by
  refine .of_le rfl fun mine => ?_
  have fewer : (wanted (yard.calls.remove id)).Sublist (wanted yard.calls) :=
    List.filter_sublist.flatMap _
  simp only [Yard.outstanding, List.countP_append]
  exact Nat.add_le_add_left fewer.countP_le _

/-- The end of a job adds nothing to what may still start. -/
theorem balances_retire (yard : Yard Body) (job : Job Body) (output : Output) :
    yard.Balances (yard.retire job output) [] [] := by
  have calls : wanted (yard.retire job output).calls = wanted yard.calls := by
    unfold retire
    split
    · rfl
    · exact Listing.flatMap_amend (fun call => call.assignments_hear _ _ _) yard.calls
  have refusals : (yard.retire job output).refusals = yard.refusals := by
    unfold retire
    split <;> rfl
  refine .of_le refusals fun mine => ?_
  have fewer : (ready (yard.retire job output).jobs).Sublist (ready yard.jobs) := by
    rw [jobs_retire]
    exact (List.filter_sublist.filter _).map _
  simp only [Yard.outstanding, List.countP_append, calls]
  exact Nat.add_le_add_right fewer.countP_le _

theorem refusals_reportPanic (yard : Yard Body) (uncaught : Option Payload) :
    (yard.reportPanic uncaught).refusals = yard.refusals := by
  unfold reportPanic
  split
  · split <;> exact refusals_note rfl yard
  · rfl

theorem refusals_finishJob (yard : Yard Body) (id : JobId) (ending : Ending) :
    (yard.finishJob id ending).refusals = yard.refusals := by
  unfold finishJob
  split
  · rfl
  · next job _ =>
    split
    · refine Eq.trans ?_ (yard.refusals_reportPanic (ending.uncaught? job.purpose))
      unfold deliver
      cases job.purpose <;> rfl
    · rfl

theorem balances_finish (yard : Yard Body) (id : JobId) (ending : Ending) :
    yard.Balances (yard.finishJob id ending) [] [] := by
  rcases finishJob_cases yard id ending with same | ⟨job, -, -, -, journal, reported, retired⟩
  · rw [same]
    exact .of_same rfl rfl rfl
  · obtain ⟨_, -, counts⟩ := { yard with journal := journal, reported := reported }.balances_retire
      job (ending.outputFor job.purpose)
    rw [← retired] at counts
    exact .of_le (refusals_finishJob yard id ending) fun mine =>
      Nat.le_trans (Nat.le_add_right _ _) (counts mine)

theorem balances_abandon (yard : Yard Body) (id : JobId) :
    yard.Balances (yard.abandonJob id) [] [] := by
  rcases abandonJob_cases yard id with
    same | ⟨job, -, -, call, task, scope, reason, -, -, retired⟩
  · rw [same]
    exact .of_same rfl rfl rfl
  · rw [retired]
    exact { yard with scopes := yard.scopes.settle scope reason }.balances_retire job _

/-- A body that starts is no more among those that may still start. -/
theorem countP_ready_start (id : JobId) (jobs : List (Job Body)) (mine : Assignment Body → Bool) :
    (ready (jobs.map fun job => if job.id = id then { job with started := true } else job)).countP
        mine +
      ((jobs.filter fun job => job.id = id && !job.started).map Job.assignment).countP mine =
    (ready jobs).countP mine := by
  induction jobs with
  | nil => rfl
  | cons job rest inductionHypothesis =>
    unfold ready at inductionHypothesis ⊢
    by_cases same : job.id = id <;> cases started : job.started <;>
      simp only [same, started, List.map_cons, List.filter_cons, if_true, if_false, Bool.not_true,
        Bool.not_false, Bool.and_true, Bool.and_false, decide_true, decide_false,
        Bool.false_eq_true, List.countP_cons] <;>
      omega

theorem balances_start (yard : Yard Body) (id : JobId) :
    yard.Balances (yard.startJob id) [] ((yard.starting (.start id)).map Job.assignment) := by
  refine ⟨[], (List.append_nil _).symm, fun mine => ?_⟩
  have counted := countP_ready_start id yard.jobs mine
  simp only [Yard.outstanding, Yard.startJob, starting, List.countP_append, List.countP_nil]
  omega

theorem refusals_push (yard : Yard Body) (scope : ScopeId) (label : String) (body : Body) :
    (yard.push scope label body).2.refusals = yard.refusals := by
  unfold push
  cases ended : yard.ended? scope with
  | some reason =>
    rw [query_of_some ended]
    rfl
  | none =>
    rw [query_of_none ended]
    simp only
    split
    · rfl
    · exact refusals_note rfl _

/-- What an event does to the books of what may still start. -/
theorem Kept.balances_step (kept : yard.Kept) (event : Event Body) :
    yard.Balances (yard.step event) (yard.ordering event)
      ((yard.starting event).map Job.assignment) := by
  cases event with
  | tick moment =>
    obtain ⟨now, -, moved⟩ := advanceTo_eq yard moment
    rw [Yard.step, moved]
    exact .of_same rfl rfl rfl
  | push scope label body =>
    obtain ⟨scopes, backlog, taskCount, journal, -, pushed⟩ := push_eq yard scope label body
    refine .of_same (refusals_push yard scope label body) ?_ ?_ <;> rw [Yard.step, pushed]
  | release =>
    exact .of_same ((refusals_note rfl _).trans (refusals_note rfl _)) rfl rfl
  | begin request => exact (kept.balances_begin request).weaken (yard.offered_sublist request)
  | poll id => exact kept.balances_poll id
  | drop id => exact yard.balances_drop id
  | start id => exact yard.balances_start id
  | finish id ending => exact yard.balances_finish id ending
  | abandon id => exact yard.balances_abandon id
  | openScope | cancel | query | discard | setTimeout => exact .of_same rfl rfl rfl

/-- What a history does to them. -/
theorem Kept.balances_after (kept : yard.Kept) (history : List (Event Body)) :
    yard.Balances (yard.after history) (yard.chronicle ordering history)
      ((yard.chronicle starting history).map Job.assignment) := by
  induction history generalizing yard with
  | nil => exact .of_same rfl rfl rfl
  | cons event rest inductionHypothesis =>
    rw [chronicle, chronicle, List.map_append]
    exact (kept.balances_step event).trans (inductionHypothesis (kept.step event))

end Yard

end Taskyard

/-
This file shows what comes of beginning an operation. Before the new call is
dealt with, an operation that runs a batch takes it out of the backlog, and one
that waits for every job to end closes the slots; the rest is a first poll.
-/

import Taskyard.Proofs.Order.Polls

namespace Taskyard

variable {Body : Type}

namespace Yard

variable {yard : Yard Body}

/-- What never changes of the call that a request would begin. There is none if there is no batch
to run. -/
def concern? (yard : Yard Body) : Request Body → Option Concern
  | .submit _ => some .submit
  | .submitTask scope _ => some (.solo scope)
  | .exec scope => (yard.backlog.batches.get? scope).map fun entries =>
    .batch scope yard.timeout (yard.now.timer yard.timeout) (entries.map Entry.task)
  | .drain timeout => some (.drain timeout (yard.now.after? timeout))
  | .watch scope => some (.watch scope)

/-- The yard in which the call of a request is dealt with for the first time. -/
def prepared (yard : Yard Body) : Request Body → Yard Body
  | .submit _ | .submitTask _ _ | .watch _ => { yard with callCount := yard.callCount + 1 }
  | .exec scope => { yard with
      callCount := yard.callCount + 1
      nextTimeout := none
      backlog := yard.backlog.remove scope }
  | .drain _ => closeSlots { yard with callCount := yard.callCount + 1 }

theorem calls_prepared (request : Request Body) : (yard.prepared request).calls = yard.calls := by
  cases request <;> rfl

theorem jobs_prepared (request : Request Body) : (yard.prepared request).jobs = yard.jobs := by
  cases request <;> rfl

theorem now_prepared (request : Request Body) : (yard.prepared request).now = yard.now := by
  cases request <;> rfl

theorem scopes_prepared (request : Request Body) :
    (yard.prepared request).scopes = yard.scopes := by
  cases request <;> rfl

theorem staff_prepared (request : Request Body) (id : CallId) :
    (yard.prepared request).staff id = yard.staff id := by
  rw [staff, jobs_prepared, staff]

theorem parked_prepared (request : Request Body) :
    (yard.prepared request).slots.parked = yard.slots.parked := by
  cases request <;> rfl

/-- A call that is about to begin waits for nothing, has no jobs, and is not under way. -/
theorem InOrderBut.fresh (inOrder : yard.InOrder) : ⟨yard.callCount⟩ ∉ yard.slots.parked ∧
    yard.staff ⟨yard.callCount⟩ = [] ∧ yard.calls.get? ⟨yard.callCount⟩ = none := by
  have absent : (⟨yard.callCount⟩ : CallId) ∉ yard.calls.keys := fun member =>
    Nat.lt_irrefl _ (inOrder.callsKnown _ member)
  have missing := Listing.get?_eq_none_iff.mpr absent
  refine ⟨?_, ?_, missing⟩
  · intro member
    obtain ⟨call, found, -⟩ := (inOrder.parked _ (by simp)).mp member
    simp [missing] at found
  · rw [← isUnmanned_iff]
    simp only [isUnmanned, Bool.not_eq_true', List.any_eq_false]
    intro job member works
    exact Nat.lt_irrefl _ (inOrder.patronsKnown job member _ (worksFor_iff.mp works))

theorem InOrderBut.prepare (inOrder : yard.InOrder) (request : Request Body) :
    (yard.prepared request).InOrderBut (some ⟨yard.callCount⟩) := by
  have numbered : { yard with callCount := yard.callCount + 1 }.InOrderBut
      (some ⟨yard.callCount⟩) := { inOrder with
    patronsKnown := fun job member id patron =>
      Nat.lt_succ_of_lt (inOrder.patronsKnown job member id patron)
    callsKnown := fun id member => Nat.lt_succ_of_lt (inOrder.callsKnown id member)
    busyKnown := fun id same => Option.some.inj same ▸ Nat.lt_succ_self _
    parked := fun id _ => inOrder.parked id (by simp)
    fits := fun id call _ => inOrder.fits id call (by simp) }
  cases request with
  | submit body => exact numbered
  | submitTask scope body => exact numbered
  | exec scope => exact numbered.of_floor rfl
  | drain timeout => exact { numbered with slots := numbered.slots.close }
  | watch scope => exact numbered

/-- A batch that has just been taken out of the backlog. -/
def taken (scope : ScopeId) (timeout begun : Duration) (entries : List (Entry Body)) :
    Batch Body where
  scope := scope
  timeout := timeout
  begun := begun
  deadline := begun.timer timeout
  tasks := entries.map Entry.task
  unsubmitted := entries
  queued := false
  inbox := []
  outcome := .empty

theorem fits_taken {id : CallId} {staff : List Purpose} {entries : List (Entry Body)}
    (distinct : (entries.map Entry.task).Nodup) (unstaffed : staff = []) (scope : ScopeId)
    (timeout begun : Duration) : (taken scope timeout begun entries).Fits id staff where
  distinct := distinct
  outcome := Outcome.sound_empty
  pressing queued := by cases queued
  accounted := ⟨[], unstaffed, by simp [taken, Outcome.empty, Outcome.tasks, Listing.keys]⟩

/-- A batch does not begin if its scope has ended; otherwise it begins with a poll. -/
theorem beginBatch_cases (yard : Yard Body) (id : CallId) (scope : ScopeId) (timeout : Duration)
    (entries : List (Entry Body)) :
    (∃ reason note, yard.ended? scope = some reason ∧
      yard.beginBatch id scope timeout entries =
        (some (.executed (some (.failAll (entries.map Entry.task) (.scope reason)))),
          { yard with scopes := yard.scopes.settle scope reason }.note note)) ∨
    (∃ note, yard.beginBatch id scope timeout entries =
      (yard.note note).pollBatch id (taken scope timeout yard.now entries)) := by
  unfold beginBatch
  cases ended : yard.ended? scope with
  | some reason =>
    rw [query_of_some ended]
    exact .inl ⟨reason, _, rfl, rfl⟩
  | none =>
    rw [query_of_none ended]
    exact .inr ⟨_, rfl⟩

/-- A batch that has just been taken is dealt with. -/
theorem Dealing.taken {id : CallId} {before : Yard Body} {entries : List (Entry Body)}
    (dealing : before.Dealing id yard) (outside : id ∉ yard.slots.parked)
    (unstaffed : yard.staff id = []) (distinct : (entries.map Entry.task).Nodup) (scope : ScopeId)
    (timeout begun : Duration) : before.Dealt id (Yard.taken scope timeout begun entries) yard :=
  ⟨dealing, iff_of_false outside (by simp [Yard.taken]),
    fits_taken distinct unstaffed scope timeout begun⟩

theorem Dealing.beginBatch {id : CallId} {before : Yard Body} {entries : List (Entry Body)}
    (dealing : before.Dealing id yard) (outside : id ∉ yard.slots.parked)
    (unstaffed : yard.staff id = []) (absent : before.calls.get? id = none)
    (distinct : (entries.map Entry.task).Nodup) (scope : ScopeId) (timeout : Duration) :
    Polled id (.batch scope timeout (yard.now.timer timeout) (entries.map Entry.task)) before
      (yard.beginBatch id scope timeout entries) := by
  rcases beginBatch_cases yard id scope timeout entries with
    ⟨reason, note, ended, failed⟩ | ⟨note, begun⟩
  · rw [failed]
    refine ((dealing.settled ended).noted note).answerUnkept ?_ outside absent
    exact ⟨Outcome.sound_failAll distinct _, .of_eq (Outcome.tasks_failAll _ _)⟩
  · rw [begun]
    exact ((dealing.noted note).taken outside unstaffed distinct scope timeout yard.now).pollBatch

/-- No task is in the backlog twice, and every one of them was numbered. -/
structure Stocked (yard : Yard Body) : Prop where
  distinct : ∀ scope, ((yard.backlog.batch scope).map Entry.task).Nodup
  known : ∀ scope, ∀ entry ∈ yard.backlog.batch scope, entry.task.serial < yard.taskCount

theorem Stocked.distinct_of_get? {scope : ScopeId} {entries : List (Entry Body)}
    (stocked : yard.Stocked) (batch : yard.backlog.batches.get? scope = some entries) :
    (entries.map Entry.task).Nodup := by
  simpa [Backlog.batch, batch] using stocked.distinct scope

/-- What never changes of the call that runs the batch of a scope. -/
theorem concern?_exec {scope : ScopeId} {entries : List (Entry Body)}
    (batch : yard.backlog.batches.get? scope = some entries) :
    yard.concern? (.exec scope) = some (.batch scope yard.timeout
      (yard.now.timer yard.timeout) (entries.map Entry.task)) := by
  rw [concern?, batch, Option.map_some]

/-- A scope without a batch has none that could be run. -/
theorem begin_exec_of_absent {scope : ScopeId}
    (absent : yard.backlog.batches.get? scope = none) : (yard.begin (.exec scope)).2 =
      (some (.executed none), (yard.prepared (.exec scope)).note (.nothingPending scope)) := by
  simp only [Yard.begin, takeTimeout, takeBatch, Backlog.take, absent]
  rfl

/-- Running the batch of a scope takes it out of the backlog and begins it. -/
theorem begin_exec {scope : ScopeId} {entries : List (Entry Body)}
    (batch : yard.backlog.batches.get? scope = some entries) :
    (yard.begin (.exec scope)).2 =
      (yard.prepared (.exec scope)).beginBatch ⟨yard.callCount⟩ scope yard.timeout entries := by
  simp only [Yard.begin, takeTimeout, takeBatch, Backlog.take, batch]
  rfl

theorem begin_submitTask (yard : Yard Body) (scope : ScopeId) (body : Body) :
    (yard.begin (.submitTask scope body)).2 =
      match (yard.prepared (.submitTask scope body)).query scope with
      | (some reason, yard) => (some (.completed (.error (.scope reason))), yard)
      | (none, later) => later.pollSoloQueued ⟨yard.callCount⟩ scope body false := rfl

/-- A body is refused at once if its scope has ended. -/
theorem begin_submitTask_of_ended {scope : ScopeId} {reason : EndReason}
    (ended : yard.ended? scope = some reason) (body : Body) :
    (yard.begin (.submitTask scope body)).2 =
      (some (.completed (.error (.scope reason))),
        { yard.prepared (.submitTask scope body) with
          scopes := yard.scopes.settle scope reason }) := by
  have same : (yard.prepared (.submitTask scope body)).ended? scope = some reason := ended
  rw [begin_submitTask, query_of_some same]
  rfl

theorem begin_submitTask_of_going {scope : ScopeId} (going : yard.ended? scope = none)
    (body : Body) : (yard.begin (.submitTask scope body)).2 =
      (yard.prepared (.submitTask scope body)).pollSoloQueued ⟨yard.callCount⟩ scope body
        false := by
  have same : (yard.prepared (.submitTask scope body)).ended? scope = none := going
  rw [begin_submitTask, query_of_none same]

/-- What comes of beginning an operation. -/
theorem InOrderBut.begin {request : Request Body} {concern : Concern} (inOrder : yard.InOrder)
    (stocked : yard.Stocked) (some : yard.concern? request = some concern) :
    Polled ⟨yard.callCount⟩ concern (yard.prepared request) (yard.begin request).2 := by
  have dealing := Dealing.start (inOrder.prepare request)
  obtain ⟨outside, unstaffed, absent⟩ := inOrder.fresh
  rw [← parked_prepared request] at outside
  rw [← staff_prepared request] at unstaffed
  rw [← calls_prepared request] at absent
  cases request with
  | submit body =>
    cases some
    exact dealing.pollSubmit (by simpa using outside) unstaffed body
  | submitTask scope body =>
    cases some
    cases ended : yard.ended? scope with
    | some reason =>
      rw [begin_submitTask_of_ended ended]
      exact (dealing.settled ended).answerUnkept trivial outside absent
    | none =>
      rw [begin_submitTask_of_going ended]
      exact dealing.pollSoloQueued (by simpa using outside) unstaffed body
  | exec scope =>
    obtain ⟨entries, taken, rfl⟩ := Option.map_eq_some_iff.mp some
    refine begin_exec taken ▸ dealing.beginBatch outside unstaffed absent ?_ scope yard.timeout
    exact stocked.distinct_of_get? taken
  | drain timeout =>
    cases some
    exact dealing.pollDrain outside unstaffed timeout _
  | watch scope =>
    cases some
    exact dealing.pollWatch outside unstaffed scope

/-- What comes of running a batch that is not there. -/
theorem begin_of_none {request : Request Body} (none : yard.concern? request = none) :
    ∃ scope, request = .exec scope ∧ (yard.begin request).2 =
      (some (.executed Option.none), (yard.prepared request).note (.nothingPending scope)) := by
  cases request with
  | exec scope =>
    exact ⟨scope, rfl, begin_exec_of_absent (Option.map_eq_none_iff.mp none)⟩
  | submit body => cases none
  | submitTask scope body => cases none
  | drain timeout => cases none
  | watch scope => cases none

end Yard

end Taskyard

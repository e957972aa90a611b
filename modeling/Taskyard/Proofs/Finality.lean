/-
This file says that a release is final. Once the slots are closed they stay so,
and nobody gets one any more: not those that ask later, nor those that waited,
nor those that were handed a slot and have not come back for it. The backlog is
empty and stays so. Bodies that have a slot keep it and are not disturbed; what
comes of them is what would have come of them without the release.

A batch of which some tasks have no slot yet when the slots are closed enters
these tasks as refused in its next poll, and goes on with the others. It still
fails as a whole if its timeout is over or its scope ends before the others are
done.
-/

import Taskyard.Proofs.Cancellation
import Taskyard.Proofs.Completeness
import Taskyard.Proofs.Conservation
import Taskyard.Proofs.Pushes
import Taskyard.Proofs.Staffing

namespace Taskyard

variable {Body : Type}

/-- The job that an event puts an end to. -/
def Event.ends? : Event Body → Option JobId
  | .finish id _ | .abandon id => some id
  | .tick _ | .openScope _ | .cancel _ | .query _ | .push _ _ _ | .discard _ | .setTimeout _
  | .release | .begin _ | .poll _ | .drop _ | .start _ => none

/-- Whether an event is one that may happen to bodies that have a slot, or to the scopes, and gives
nobody a slot nor asks for one. -/
def Event.isOfJobs : Event Body → Bool
  | .tick _ | .openScope _ | .cancel _ | .query _ | .start _ | .finish _ _ | .abandon _ => true
  | .push _ _ _ | .discard _ | .setTimeout _ | .release | .begin _ | .poll _ | .drop _ => false

/-- Whether a job is another one that may have started in the meantime. -/
structure Job.Continues (former job : Job Body) : Prop where
  id : job.id = former.id
  purpose : job.purpose = former.purpose
  body : job.body = former.body
  started : former.started = true → job.started = true

theorem Call.isParked_unheard (call : Call Body) : call.unheard.isParked = call.isParked := by
  cases call <;> rfl

theorem Job.Continues.refl (job : Job Body) : job.Continues job :=
  ⟨rfl, rfl, rfl, fun started => started⟩

theorem Job.Continues.trans {first second third : Job Body} (one : first.Continues second)
    (two : second.Continues third) : first.Continues third :=
  ⟨two.id.trans one.id, two.purpose.trans one.purpose, two.body.trans one.body,
    fun started => two.started (one.started started)⟩

namespace Yard

variable {yard : Yard Body} {id : CallId}

/-! ### Jobs -/

theorem continues_startJob (yard : Yard Body) (id : JobId) :
    (∀ job ∈ yard.jobs, ∃ other ∈ (yard.startJob id).jobs, job.Continues other) ∧
      ∀ other ∈ (yard.startJob id).jobs, ∃ job ∈ yard.jobs, job.Continues other := by
  have marked : ∀ job : Job Body,
      job.Continues (if job.id = id then { job with started := true } else job) := fun job => by
    split
    · exact ⟨rfl, rfl, rfl, fun _ => rfl⟩
    · exact .refl job
  constructor
  · intro job member
    exact ⟨_, List.mem_map_of_mem member, marked job⟩
  · intro other member
    obtain ⟨job, listed, rfl⟩ := List.mem_map.mp member
    exact ⟨job, listed, marked job⟩

/-- A job goes on until it is over. -/
theorem Kept.continues_step (kept : yard.Kept) {event : Event Body} {job : Job Body}
    (member : job ∈ yard.jobs) (goesOn : event.ends? ≠ some job.id) :
    ∃ other ∈ (yard.step event).jobs, job.Continues other := by
  cases kept.staffs event with
  | hires recruits jobs idle none starts =>
    exact ⟨job, jobs ▸ List.mem_append_left _ member, .refl job⟩
  | starts id same => exact same ▸ (yard.continues_startJob id).1 job member
  | dismisses gone listed about jobs =>
    refine ⟨job, jobs ▸ List.mem_filter.mpr ⟨member, decide_eq_true fun same => ?_⟩, .refl job⟩
    obtain rfl | ⟨ending, rfl, -⟩ := about <;> exact goesOn (congrArg some same.symm)

theorem Kept.continues_after (kept : yard.Kept) {history : List (Event Body)} {job : Job Body}
    (member : job ∈ yard.jobs) (goesOn : ∀ event ∈ history, event.ends? ≠ some job.id) :
    ∃ other ∈ (yard.after history).jobs, job.Continues other := by
  induction history using List.reverseRecOn with
  | nil => exact ⟨job, member, .refl job⟩
  | append_singleton earlier event inductionHypothesis =>
    obtain ⟨before, last⟩ := List.forall_mem_append.mp goesOn
    obtain ⟨between, listed, one⟩ := inductionHypothesis before
    have still := last event List.mem_cons_self
    rw [← one.id] at still
    obtain ⟨other, present, two⟩ := (kept.after earlier).continues_step listed still
    rw [after_concat]
    exact ⟨other, present, one.trans two⟩

/-- Where the slots are closed there are no new jobs. -/
theorem Kept.jobs_step_of_closed (kept : yard.Kept) (closed : yard.slots.closed = true)
    (event : Event Body) : (yard.step event).jobs.length ≤ yard.jobs.length ∧
      ∀ other ∈ (yard.step event).jobs, ∃ job ∈ yard.jobs, job.Continues other := by
  cases kept.staffs event with
  | hires recruits jobs idle none starts =>
    rw [jobs, none closed, List.append_nil]
    exact ⟨Nat.le_refl _, fun other member => ⟨other, member, .refl other⟩⟩
  | starts id same =>
    rw [same]
    exact ⟨Nat.le_of_eq (List.length_map _), (yard.continues_startJob id).2⟩
  | dismisses gone listed about jobs =>
    rw [jobs]
    exact ⟨List.length_filter_le _ _,
      fun other member => ⟨other, List.mem_of_mem_filter member, .refl other⟩⟩

theorem Kept.jobs_after_of_closed (kept : yard.Kept) (closed : yard.slots.closed = true)
    (history : List (Event Body)) : (yard.after history).jobs.length ≤ yard.jobs.length ∧
      ∀ other ∈ (yard.after history).jobs, ∃ job ∈ yard.jobs, job.Continues other := by
  induction history using List.reverseRecOn with
  | nil => exact ⟨Nat.le_refl _, fun other member => ⟨other, member, .refl other⟩⟩
  | append_singleton earlier event inductionHypothesis =>
    obtain ⟨fewer, former⟩ := inductionHypothesis
    obtain ⟨less, before⟩ :=
      (kept.after earlier).jobs_step_of_closed (kept.closed_after closed earlier) event
    rw [after_concat]
    refine ⟨Nat.le_trans less fewer, fun other member => ?_⟩
    obtain ⟨between, listed, two⟩ := before other member
    obtain ⟨job, first, one⟩ := former between listed
    exact ⟨job, first, one.trans two⟩

/-! ### The backlog -/

/-- Where the slots are closed a backlog that is empty stays so. -/
theorem Kept.backlog_step (kept : yard.Kept) (closed : yard.slots.closed = true)
    (empty : yard.backlog = .empty) (event : Event Body) : (yard.step event).backlog = .empty := by
  cases event with
  | tick moment =>
    obtain ⟨now, -, moved⟩ := advanceTo_eq yard moment
    rwa [Yard.step, moved]
  | push scope label body =>
    cases ended : yard.ended? scope with
    | some reason => rwa [Yard.step, push_of_ended ended]
    | none => rwa [Yard.step, push_of_closed ended closed]
  | discard scope =>
    simp only [Yard.step, Yard.discard, Backlog.discard, empty]
    rfl
  | begin request =>
    refine (congrArg Surroundings.backlog (kept.surroundings_begin request)).trans ?_
    cases request with
    | exec scope =>
      simp only [Yard.surroundings, prepared, empty]
      rfl
    | submit body => exact empty
    | submitTask scope body => exact empty
    | drain timeout => exact empty
    | watch scope => exact empty
  | poll call => exact (congrArg Surroundings.backlog (kept.surroundings_poll call)).trans empty
  | finish job ending =>
    exact (congrArg Surroundings.backlog (kept.inOrder.finishJob job ending).surroundings).trans
      empty
  | abandon job =>
    exact (congrArg Surroundings.backlog (kept.inOrder.abandonJob job).surroundings).trans empty
  | release => rfl
  | openScope | cancel | query | setTimeout | drop | start => exact empty

theorem Kept.backlog_after (kept : yard.Kept) (closed : yard.slots.closed = true)
    (empty : yard.backlog = .empty) (history : List (Event Body)) :
    (yard.after history).backlog = .empty := by
  induction history using List.reverseRecOn with
  | nil => exact empty
  | append_singleton earlier event inductionHypothesis =>
    rw [after_concat]
    exact (kept.after earlier).backlog_step (kept.closed_after closed earlier) inductionHypothesis
      event

theorem begin_exec_of_empty (empty : yard.backlog = .empty) (scope : ScopeId) :
    (yard.begin (.exec scope)).2.1 = some (.executed none) := by
  have absent : yard.backlog.batches.get? scope = none := by
    rw [empty]
    rfl
  rw [begin_exec_of_absent absent]

/-! ### Those that ask -/

/-- Whoever asks for a slot once they are closed is refused, and is not missed afterwards. -/
theorem pollSubmit_closed (closed : yard.slots.closed = true) (id : CallId) (body : Body)
    (queued : Bool) :
    (yard.pollSubmit id body queued).1 = some (.submitted (.error .closed)) := by
  obtain ⟨slots, refused, -⟩ := turn_closed closed id queued
  rw [pollSubmit, refused]

theorem pollSoloQueued_closed (closed : yard.slots.closed = true) (id : CallId) (scope : ScopeId)
    (body : Body) (queued : Bool) : (yard.pollSoloQueued id scope body queued).1 =
      some (.completed (.error (.submit .closed))) := by
  obtain ⟨slots, refused, -⟩ := turn_closed closed id queued
  rw [pollSoloQueued, refused]

/-- A request that is refused at once leaves nothing behind. -/
theorem Kept.refused_begin (kept : yard.Kept) :
    ({ yard with callCount := yard.callCount + 1 } : Yard Body).drop ⟨yard.callCount⟩ =
      { yard with callCount := yard.callCount + 1 } := by
  obtain ⟨outside, -, absent⟩ := kept.inOrder.fresh
  exact drop_of_absent outside (Listing.get?_eq_none_iff.mp absent)

theorem Kept.begin_submit_closed (kept : yard.Kept) (closed : yard.slots.closed = true)
    (body : Body) : (yard.begin (.submit body)).2 =
      (some (.submitted (.error .closed)), { yard with callCount := yard.callCount + 1 }) := by
  have refused : yard.slots.turn ⟨yard.callCount⟩ false = (.refused .closed, yard.slots) := by
    simp [Slots.turn, Slots.ask, closed]
  simp only [Yard.begin, pollSubmit, refused]
  rw [kept.refused_begin]

theorem Kept.begin_submitTask_closed (kept : yard.Kept) (closed : yard.slots.closed = true)
    {scope : ScopeId} (going : yard.ended? scope = none) (body : Body) :
    (yard.begin (.submitTask scope body)).2 = (some (.completed (.error (.submit .closed))),
      { yard with callCount := yard.callCount + 1 }) := by
  have refused : yard.slots.turn ⟨yard.callCount⟩ false = (.refused .closed, yard.slots) := by
    simp [Slots.turn, Slots.ask, closed]
  rw [begin_submitTask_of_going going]
  simp only [prepared, pollSoloQueued, refused]
  rw [kept.refused_begin]

/-! ### Those that waited -/

/-- What a call that waits for a slot for one body is answered when the slots are closed. -/
def refusal? : Call Body → Option Reply
  | .submit _ => some (.submitted (.error .closed))
  | .soloQueued _ _ => some (.completed (.error (.submit .closed)))
  | .solo _ _ | .batch _ | .drain _ _ | .watch _ => none

theorem poll_closed (closed : yard.slots.closed = true) {call : Call Body} {reply : Reply}
    (found : yard.calls.get? id = some call) (refused : refusal? call = some reply) :
    (yard.poll id).1 = some reply := by
  rw [poll, found]
  cases call with
  | submit body =>
    cases refused
    exact pollSubmit_closed closed id body true
  | soloQueued scope body =>
    cases refused
    exact pollSoloQueued_closed closed id scope body true
  | _ => cases refused

/-- Where the slots are closed whoever waits for one has to be told so. -/
theorem Kept.progress_of_closed (kept : yard.Kept) (closed : yard.slots.closed = true)
    {call : Call Body} (found : yard.calls.get? id = some call) (parked : call.isParked = true) :
    yard.wouldProgress id call = true :=
  progress_of_news (kept.inOrder.fits id call (by simp) found) parked
    (by simp [Slots.hasNews, closed])

/-- Nobody waits for a slot who has looked since they were closed. -/
theorem Kept.unparked_of_poll (kept : yard.Kept) (closed : yard.slots.closed = true)
    (id : CallId) : id ∉ (yard.poll id).2.slots.parked := by
  intro member
  obtain ⟨call, found, parked⟩ := ((kept.poll id).inOrder.parked id (by simp)).mp member
  have progress := (kept.poll id).progress_of_closed (kept.closed_step closed (.poll id)) found
    parked
  cases former : yard.calls.get? id with
  | none => simp [poll_of_absent former, former] at found
  | some held => simp [((kept.inOrder.poll former).waits found).2.2] at progress

/-- When nothing more can happen nobody waits for a slot that is closed. -/
theorem Kept.waiting_of_quiet (kept : yard.Kept) (closed : yard.slots.closed = true)
    (quiet : yard.isQuiet = true) : yard.slots.waiting = 0 := by
  rw [kept.inOrder.accounts.waiting, List.countP_eq_zero]
  intro entry listed parked
  have found := (Listing.get?_eq_some_iff kept.inOrder.callsDistinct).mpr listed
  have progress := kept.progress_of_closed closed found parked
  simp only [isQuiet, Bool.and_eq_true, Bool.not_eq_true', List.any_eq_false] at quiet
  exact quiet.1 entry listed progress

/-- Of a call that waits for a slot for one body nothing changes while nothing is about it. -/
theorem Kept.parked_after (kept : yard.Kept) {history : List (Event Body)} {call : Call Body}
    {reply : Reply} (found : yard.calls.get? id = some call) (refused : refusal? call = some reply)
    (apart : ∀ event ∈ history, event.call? ≠ some id) :
    (yard.after history).calls.get? id = some call := by
  have same := kept.unheard_after (kept.inOrder.numbered found) apart
  rw [found] at same
  obtain ⟨held, underWay, heard⟩ := Option.map_eq_some_iff.mp same
  rw [underWay]
  cases call with
  | submit body => cases held <;> cases heard; rfl
  | soloQueued scope body => cases held <;> cases heard; rfl
  | _ => cases refused

/-! ### Batches under way -/

/-- The entry of a task that is not submitted because the slots are closed. -/
def turnedAway (task : TaskId) : TaskId × Option TaskError := (task, some (.submit .closed))

/-- Whether of each of these tasks a batch knows that it was turned away, unless it still has to
submit it. -/
def HasTurn (tasks : List TaskId) (batch : Batch Body) : Prop :=
  ∀ task ∈ tasks, task ∈ batch.unsubmitted.map Entry.task ∨ turnedAway task ∈ batch.outcome.errors

/-- Once the slots are closed every task that is left to submit is turned away. -/
theorem dispatch_closed_eq {batch : Batch Body} {queued : Bool} {entries : List (Entry Body)}
    {outcome : Outcome} (closed : yard.slots.closed = true) :
    (yard.dispatch id batch queued entries outcome).1 = { batch with
      unsubmitted := []
      queued := false
      outcome := outcome.recordAll
        (entries.map fun entry => (entry.task, .error (.submit .closed))) } := by
  induction entries generalizing queued yard outcome with
  | nil => rfl
  | cons entry rest inductionHypothesis =>
    obtain ⟨slots, refused, still⟩ := turn_closed closed id queued
    unfold dispatch
    rw [refused]
    exact inductionHypothesis still

/-- The tasks that have an entry or are left to submit are all different. -/
theorem distinct_of_fits {batch : Batch Body} {staff : List Purpose} (fits : batch.Fits id staff) :
    (batch.outcome.tasks ++ batch.unsubmitted.map Entry.task).Nodup := by
  obtain ⟨members, -, accounted⟩ := fits.accounted
  refine (accounted.nodup_iff.mpr fits.distinct).sublist ?_
  rw [List.append_assoc, List.append_assoc]
  exact (List.Sublist.refl _).append
    ((List.sublist_append_right members _).trans (List.sublist_append_right _ _))

theorem turnedAway_submitted {batch : Batch Body} {staff : List Purpose} {tasks : List TaskId}
    (closed : yard.slots.closed = true) (fits : batch.Fits id staff) (turn : HasTurn tasks batch) :
    ∀ task ∈ tasks, turnedAway task ∈ (yard.submitted id batch).1.outcome.errors := by
  intro task member
  have distinct : (batch.outcome.tasks ++ (batch.unsubmitted.map fun entry =>
      (entry.task, (.error (.submit .closed) : Output))).map Prod.fst).Nodup := by
    rw [List.map_map]
    exact distinct_of_fits fits
  rw [submitted, dispatch_closed_eq closed, Outcome.errors_recordAll distinct]
  rcases turn task member with left | known
  · obtain ⟨entry, listed, rfl⟩ := List.mem_map.mp left
    refine List.mem_append_right _ ?_
    rw [List.map_map]
    exact List.mem_map.mpr ⟨entry, listed, rfl⟩
  · exact List.mem_append_left _ known

/-- What a batch is answered that cannot go on, and when. -/
inductive FailsWhole (yard : Yard Body) (batch : Batch Body) (outcome : Outcome) : Prop
  | timeout (past : batch.deadline ≤ yard.now)
      (same : outcome = .failAll batch.tasks (.timeout batch.timeout))
  | ended {reason : EndReason} (ended : yard.ended? batch.scope = some reason)
      (same : outcome = .failAll batch.tasks (.scope reason))

theorem failsWhole_awaitBatch {batch : Batch Body} {outcome : Outcome}
    (answered : (yard.awaitBatch id batch).1 = some (.executed (some outcome))) :
    yard.FailsWhole batch outcome := by
  unfold awaitBatch at answered
  split at answered
  · next past =>
    cases answered
    exact .timeout past rfl
  · cases ended : yard.ended? batch.scope with
    | some reason =>
      rw [query_of_some ended] at answered
      cases answered
      exact .ended ended rfl
    | none =>
      rw [query_of_none ended] at answered
      cases answered

/-- A batch is not kept once its timeout is over or its scope has ended. -/
theorem isSome_awaitBatch {batch : Batch Body}
    (past : batch.deadline ≤ yard.now ∨ (yard.ended? batch.scope).isSome) :
    (yard.awaitBatch id batch).1.isSome := by
  unfold awaitBatch
  split
  · rfl
  · next ahead =>
    obtain ⟨reason, ended⟩ := Option.isSome_iff_exists.mp (past.resolve_left ahead)
    rw [query_of_some ended]
    rfl

/-- What never changes of a batch is the same after it has submitted and looked. -/
theorem exists_looked (yard : Yard Body) (id : CallId) (batch : Batch Body) :
    ∃ unsubmitted queued inbox outcome, (yard.submitted id batch).1.looked = { batch with
      unsubmitted := unsubmitted, queued := queued, inbox := inbox, outcome := outcome } := by
  obtain ⟨_, _, _, same⟩ :=
    dispatch_batch id batch batch.queued batch.unsubmitted yard batch.outcome
  rw [submitted, same, Batch.looked]
  split <;> exact ⟨_, _, _, _, rfl⟩

theorem now_dispatch (id : CallId) (batch : Batch Body) (queued : Bool)
    (entries : List (Entry Body)) (yard : Yard Body) (outcome : Outcome) :
    (yard.dispatch id batch queued entries outcome).2.now = yard.now := by
  induction entries generalizing queued yard outcome with
  | nil => rfl
  | cons entry rest inductionHypothesis =>
    unfold dispatch
    rcases yard.slots.turn id queued with ⟨turn, slots⟩
    cases turn with
    | admitted => exact inductionHypothesis _ _ _
    | refused error => exact inductionHypothesis _ _ _
    | queued => rfl

/-- A batch that goes on after it has submitted and looked fails as a whole if it is answered. -/
theorem failsWhole_of_looked {journal : List Note} {outcome : Outcome}
    (answered : ({ (yard.submitted id batch).2 with journal := journal }.awaitBatch id
      (yard.submitted id batch).1.looked).1 = some (.executed (some outcome))) :
    yard.FailsWhole batch outcome := by
  have now := now_dispatch id batch batch.queued batch.unsubmitted yard batch.outcome
  obtain ⟨scopes, -⟩ := dispatch_yard id batch batch.queued batch.unsubmitted yard batch.outcome
  obtain ⟨_, _, _, _, looked⟩ := yard.exists_looked id batch
  have fails := failsWhole_awaitBatch answered
  rw [looked] at fails
  rw [← submitted] at now scopes
  cases fails with
  | timeout past same => exact .timeout (now ▸ past) same
  | @ended reason ended same =>
    refine .ended ?_ same
    rw [Yard.ended?, ← scopes, ← now]
    exact ended

/-- What a batch is answered after the slots were closed, given the tasks that had none: these have
been turned away, unless the batch fails as a whole. -/
theorem Kept.answer_closed (kept : yard.Kept) (closed : yard.slots.closed = true)
    {batch : Batch Body} {tasks : List TaskId} {outcome : Outcome}
    (found : yard.calls.get? id = some (.batch batch)) (turn : HasTurn tasks batch)
    (answered : (yard.poll id).1 = some (.executed (some outcome))) :
    yard.FailsWhole batch outcome ∨ ∀ task ∈ tasks, turnedAway task ∈ outcome.errors := by
  obtain ⟨-, -, fits, -⟩ := kept.inOrder.underWay found
  have away := turnedAway_submitted closed fits turn
  have settled := kept.inOrder.dispatched found
  rw [poll_of_batch found] at answered
  rcases pollBatch_cases yard id batch with ⟨complete, ends⟩ | ⟨-, journal, goesOn⟩
  · rw [ends] at answered
    cases answered
    rw [Outcome.errors_recordAll settled.dealt.fits.incoming]
    exact .inr fun task member => List.mem_append_left _ (away task member)
  · rw [goesOn] at answered
    exact .inl (failsWhole_of_looked answered)

/-- Looking at what came in undoes nothing. -/
theorem hasTurn_looked {batch : Batch Body} {staff : List Purpose} {tasks : List TaskId}
    (fits : batch.Fits id staff) (away : ∀ task ∈ tasks, turnedAway task ∈ batch.outcome.errors) :
    HasTurn tasks batch.looked := by
  intro task member
  right
  unfold Batch.looked
  split
  · rw [Outcome.errors_recordAll fits.incoming]
    exact List.mem_append_left _ (away task member)
  · exact away task member

/-- A batch that is kept after a poll has turned away the tasks that had no slot. -/
theorem Kept.hasTurn_poll (kept : yard.Kept) (closed : yard.slots.closed = true)
    {batch held : Batch Body} {tasks : List TaskId}
    (found : yard.calls.get? id = some (.batch batch)) (turn : HasTurn tasks batch)
    (waits : (yard.poll id).2.calls.get? id = some (.batch held)) : HasTurn tasks held := by
  have unanswered := ((kept.inOrder.poll found).waits waits).1
  obtain ⟨-, -, fits, -⟩ := kept.inOrder.underWay found
  have settled := kept.inOrder.dispatched found
  rw [poll_of_batch found] at unanswered waits
  rcases pollBatch_cases yard id batch with ⟨-, ends⟩ | ⟨-, journal, goesOn⟩
  · rw [ends] at unanswered
    cases unanswered
  · rw [goesOn] at unanswered waits
    rcases awaitBatch_cases { (yard.submitted id batch).2 with journal := journal } id
      (yard.submitted id batch).1.looked with ⟨error, failed⟩ | ⟨-, kept⟩
    · rw [failed] at unanswered
      cases unanswered
    · rw [kept] at waits
      simp only [Yard.keep, Listing.get?_put, if_true, Option.some.injEq, Call.batch.injEq] at waits
      exact waits ▸ hasTurn_looked settled.dealt.fits (turnedAway_submitted closed fits turn)

theorem Kept.hasTurn_step (kept : yard.Kept) (closed : yard.slots.closed = true)
    {event : Event Body} {call : Call Body} {batch : Batch Body} {tasks : List TaskId}
    (found : yard.calls.get? id = some (.batch batch)) (turn : HasTurn tasks batch)
    (after : (yard.step event).calls.get? id = some call) :
    ∃ held, call = .batch held ∧ HasTurn tasks held := by
  have known := kept.inOrder.numbered found
  by_cases apart : event.call? = some id
  · cases event with
    | poll busy =>
      cases apart
      have same := ((kept.inOrder.poll found).waits after).2.1
      cases call with
      | batch held => exact ⟨held, rfl, kept.hasTurn_poll closed found turn after⟩
      | _ => cases same
    | drop other =>
      cases apart
      simp [Yard.step, drop, Listing.get?_remove] at after
    | _ => cases apart
  · have same := (kept.bystander known apart).unheard
    rw [found, after] at same
    obtain ⟨inbox, rfl⟩ := Call.eq_batch_of_unheard (Option.some.inj same)
    exact ⟨_, rfl, turn⟩

theorem Kept.hasTurn_after (kept : yard.Kept) (closed : yard.slots.closed = true)
    {history : List (Event Body)} {call : Call Body} {batch : Batch Body} {tasks : List TaskId}
    (found : yard.calls.get? id = some (.batch batch)) (turn : HasTurn tasks batch)
    (after : (yard.after history).calls.get? id = some call) :
    ∃ held, call = .batch held ∧ HasTurn tasks held := by
  have known := kept.inOrder.numbered found
  induction history using List.reverseRecOn generalizing call with
  | nil =>
    rw [after_nil, found, Option.some.injEq] at after
    exact ⟨batch, after.symm, turn⟩
  | append_singleton earlier event inductionHypothesis =>
    rw [after_concat] at after
    have numbered := Nat.lt_of_lt_of_le known (kept.callCount_le_after earlier)
    obtain ⟨former, before, -⟩ := (kept.after earlier).concern_step numbered after
    obtain ⟨held, rfl, still⟩ := inductionHypothesis before
    exact (kept.after earlier).hasTurn_step (kept.closed_after closed earlier) before still after

theorem FailsWhole.of_concern {held batch : Batch Body} {outcome : Outcome}
    (fails : yard.FailsWhole held outcome)
    (same : (Call.batch held).concern = (Call.batch batch).concern) :
    yard.FailsWhole batch outcome := by
  obtain ⟨scope, timeout, deadline, tasks⟩ := Concern.batch.inj same
  cases fails with
  | timeout past failed => exact .timeout (deadline ▸ past) (tasks ▸ timeout ▸ failed)
  | ended ended failed => exact .ended (scope ▸ ended) (tasks ▸ failed)

/-- Once the slots are closed a batch is answered as soon as no body of it has a slot, its timeout
is over, or its scope has ended. -/
theorem Kept.answered_closed (kept : yard.Kept) (closed : yard.slots.closed = true)
    {batch : Batch Body} (found : yard.calls.get? id = some (.batch batch))
    (ready : yard.isUnmanned id = true ∨ batch.deadline ≤ yard.now ∨
      (yard.ended? batch.scope).isSome) : (yard.poll id).1.isSome := by
  obtain ⟨-, -, -, left⟩ := kept.inOrder.underWay found
  have settled := kept.inOrder.dispatched found
  rw [poll_of_batch found]
  rcases pollBatch_cases yard id batch with ⟨-, ends⟩ | ⟨incomplete, journal, goesOn⟩
  · rw [ends]
    rfl
  · rw [goesOn]
    have manned : ¬yard.isUnmanned id = true := fun unmanned =>
      incomplete ((complete_iff left).mpr ⟨.inr closed, unmanned⟩)
    have past := ready.resolve_left manned
    obtain ⟨scopes, -⟩ := dispatch_yard id batch batch.queued batch.unsubmitted yard batch.outcome
    obtain ⟨_, _, _, _, looked⟩ := yard.exists_looked id batch
    rw [← submitted] at scopes
    rw [looked]
    rw [Yard.ended?, ← scopes, ← settled.dealt.dealing.now] at past
    exact isSome_awaitBatch past

/-! ### Bodies that have a slot -/

/-- Two yards that differ at most in their slots, their backlogs and their journals: the same bodies
have slots, and the same calls wait for what comes of them. -/
def Undisturbed (yard other : Yard Body) : Prop :=
  ∃ slots backlog journal,
    other = { yard with slots := slots, backlog := backlog, journal := journal }

/-- What comes of a body does not depend on the slots. -/
theorem Undisturbed.deliver {other : Yard Body} (undisturbed : yard.Undisturbed other)
    (purpose : Purpose) (ending : Ending) :
    (yard.deliver purpose ending).Undisturbed (other.deliver purpose ending) := by
  obtain ⟨slots, backlog, journal, rfl⟩ := undisturbed
  have reported : ∀ uncaught, (yard.reportPanic uncaught).Undisturbed
      (reportPanic { yard with slots := slots, backlog := backlog, journal := journal }
        uncaught) := by
    intro uncaught
    cases uncaught with
    | none => exact ⟨_, _, _, rfl⟩
    | some payload =>
      simp only [reportPanic, note]
      split <;> exact ⟨_, _, _, rfl⟩
  obtain ⟨_, _, _, later⟩ := reported (ending.uncaught? purpose)
  unfold Yard.deliver
  simp only [later]
  cases purpose <;> exact ⟨_, _, _, rfl⟩

theorem Undisturbed.finishJob {other : Yard Body} (undisturbed : yard.Undisturbed other)
    (id : JobId) (ending : Ending) :
    (yard.finishJob id ending).Undisturbed (other.finishJob id ending) := by
  have same : other.job? id = yard.job? id := by
    obtain ⟨_, _, _, rfl⟩ := undisturbed
    rfl
  unfold Yard.finishJob
  rw [same]
  cases yard.job? id with
  | none => exact undisturbed
  | some job =>
    simp only
    split
    · obtain ⟨_, _, _, later⟩ := undisturbed.deliver job.purpose ending
      rw [later]
      exact ⟨_, _, _, rfl⟩
    · exact undisturbed

/-- What happens to bodies that have a slot does not depend on the slots. -/
theorem Undisturbed.step {other : Yard Body} (undisturbed : yard.Undisturbed other)
    {event : Event Body} (ofJobs : event.isOfJobs = true) :
    (yard.step event).Undisturbed (other.step event) := by
  obtain ⟨slots, backlog, journal, rfl⟩ := undisturbed
  cases event with
  | tick moment =>
    simp only [Yard.step, advanceTo]
    split <;> exact ⟨_, _, _, rfl⟩
  | openScope descent => cases descent <;> exact ⟨_, _, _, rfl⟩
  | cancel scope => exact ⟨_, _, _, rfl⟩
  | query scope => exact ⟨_, _, _, rfl⟩
  | start id => exact ⟨_, _, _, rfl⟩
  | finish id ending => exact Undisturbed.finishJob ⟨slots, backlog, journal, rfl⟩ id ending
  | abandon id =>
    simp only [Yard.step, abandonJob]
    have same : job? { yard with slots := slots, backlog := backlog, journal := journal } id =
        yard.job? id := rfl
    rw [same]
    cases yard.job? id with
    | none => exact ⟨_, _, _, rfl⟩
    | some job =>
      simp only
      cases job.purpose with
      | errand | solo => exact ⟨_, _, _, rfl⟩
      | member call task scope =>
        have alike : ended? { yard with slots := slots, backlog := backlog, journal := journal }
            scope = yard.ended? scope := rfl
        cases ended : yard.ended? scope with
        | none =>
          simp only [query_of_none ended, query_of_none (alike.trans ended)]
          exact ⟨_, _, _, rfl⟩
        | some reason =>
          simp only [query_of_some ended, query_of_some (alike.trans ended)]
          exact ⟨_, _, _, rfl⟩
  | _ => cases ofJobs

theorem Undisturbed.after {other : Yard Body} (undisturbed : yard.Undisturbed other)
    {history : List (Event Body)} (ofJobs : ∀ event ∈ history, event.isOfJobs = true) :
    (yard.after history).Undisturbed (other.after history) := by
  induction history using List.reverseRecOn with
  | nil => exact undisturbed
  | append_singleton earlier event inductionHypothesis =>
    obtain ⟨before, last⟩ := List.forall_mem_append.mp ofJobs
    rw [after_concat, after_concat]
    exact (inductionHypothesis before).step (last event List.mem_cons_self)

/-! ### Once more -/

theorem close_of_closed (closed : yard.slots.closed = true) : yard.slots.close = yard.slots := by
  unfold Slots.close
  rw [← closed]

/-- Nothing is left for a second release to do but to write into the journal. -/
theorem release_of_closed (closed : yard.slots.closed = true) (empty : yard.backlog = .empty) :
    ∃ journal, yard.release = { yard with journal := journal } := by
  simp only [release, closeSlots, clear, note, close_of_closed closed, Backlog.clear]
  rw [← empty]
  exact ⟨_, rfl⟩

/-- Closing the slots again and waiting for the bodies begins a call at most. -/
theorem Kept.drain_of_closed (kept : yard.Kept) (closed : yard.slots.closed = true)
    (timeout : Duration) : ∃ calls callCount journal, (yard.begin (.drain timeout)).2.2 =
      { yard with calls := calls, callCount := callCount, journal := journal } := by
  obtain ⟨outside, -, absent⟩ := kept.inOrder.fresh
  have gone : ∀ journal : List Note,
      ({ yard with callCount := yard.callCount + 1, journal := journal } : Yard Body).drop
        ⟨yard.callCount⟩ = { yard with callCount := yard.callCount + 1, journal := journal } :=
    fun journal => drop_of_absent outside (Listing.get?_eq_none_iff.mp absent)
  simp only [Yard.begin, closeSlots, note, close_of_closed closed, pollDrain]
  split
  · exact ⟨_, _, _, gone _⟩
  · split
    · exact ⟨_, _, _, gone _⟩
    · exact ⟨_, _, _, rfl⟩

/-! ### Release -/

/-- What a release settles, given the yard before it, what happens after it, and the yard to which
that leads. -/
structure Settles (before : Yard Body) (later : List (Event Body)) (now : Yard Body) : Prop where
  closed : now.slots.closed = true
  /-- No more bodies have slots at any later time. -/
  running : ∀ more, (now.after more).slots.running ≤ now.slots.running
  /-- Nothing is in the backlog. -/
  backlog : now.backlog.batches = [] ∧ ∀ scope,
    now.pending scope = 0 ∧ (now.begin (.exec scope)).2.1 = some (.executed none)
  /-- Whoever asks for a slot is refused, and only the number of the operation is used up. -/
  submits : ∀ body, (now.begin (.submit body)).2 =
    (some (.submitted (.error .closed)), { now with callCount := now.callCount + 1 })
  commissions : ∀ scope body, now.ended? scope = none → (now.begin (.submitTask scope body)).2 =
    (some (.completed (.error (.submit .closed))), { now with callCount := now.callCount + 1 })
  /-- Nothing is pushed, and the yard stays as it is. -/
  pushes : ∀ scope label body, now.ended? scope = none →
    now.push scope label body = (.error .closed, now)
  /-- What happens to the bodies that have slots, and comes of them, is what would have happened to
  them and come of them without the release. -/
  undisturbed : (∀ event ∈ later, event.isOfJobs = true) → (before.after later).Undisturbed now
  /-- A body that had a slot has it until it ends or is dropped. -/
  continues : ∀ job ∈ before.jobs, (∀ event ∈ later, event.ends? ≠ some job.id) →
    ∃ other ∈ now.jobs, job.Continues other
  /-- No body has a slot that had none. -/
  former : ∀ other ∈ now.jobs, ∃ job ∈ before.jobs, job.Continues other
  /-- Whoever waited for a slot, whether or not it was handed one, has news until it looks or is
  dropped, and is refused when it looks. -/
  waits : ∀ id call, before.calls.get? id = some call → call.isParked = true →
    (∀ event ∈ later, event.call? ≠ some id) →
    now.isReady id = true ∧ ∀ reply, refusal? call = some reply → (now.poll id).1 = some reply
  /-- Nobody waits for a slot after it has looked. -/
  looked : ∀ id, id ∉ (now.poll id).2.slots.parked
  /-- Nobody waits for a slot when nothing more can happen. -/
  waiting : now.isQuiet = true → now.slots.waiting = 0
  /-- A batch that was under way is answered with an entry for every task. The tasks that had no
  slot are refused one, unless the timeout of the batch is over or its scope has ended first. -/
  batches : ∀ id batch reply, before.calls.get? id = some (.batch batch) →
    (now.poll id).1 = some reply → ∃ outcome, reply = .executed (some outcome) ∧
      outcome.Covers batch.tasks ∧ (now.FailsWhole batch outcome ∨
        ∀ entry ∈ batch.unsubmitted, turnedAway entry.task ∈ outcome.errors)
  /-- It is answered as soon as none of its bodies has a slot any more. -/
  answered : ∀ id batch, now.calls.get? id = some (.batch batch) →
    (now.isUnmanned id = true ∨ batch.deadline ≤ now.now ∨ (now.ended? batch.scope).isSome) →
    (now.poll id).1.isSome
  /-- Another release only writes into the journal. -/
  again : ∃ journal, now.release = { now with journal := journal }
  /-- Waiting once more for the bodies to end begins a call at most. -/
  drains : ∀ timeout, ∃ calls callCount journal, (now.begin (.drain timeout)).2.2 =
    { now with calls := calls, callCount := callCount, journal := journal }

/-- A call that waited for a slot at a release and has not looked since. -/
theorem Kept.isReady_of_parked (kept : yard.Kept) (closed : yard.slots.closed = true)
    {history : List (Event Body)} {call : Call Body} (found : yard.calls.get? id = some call)
    (parked : call.isParked = true) (apart : ∀ event ∈ history, event.call? ≠ some id) :
    (yard.after history).isReady id = true := by
  have same := kept.unheard_after (kept.inOrder.numbered found) apart
  rw [found] at same
  obtain ⟨held, underWay, heard⟩ := Option.map_eq_some_iff.mp same
  have waits := congrArg Call.isParked heard
  rw [Call.isParked_unheard, Call.isParked_unheard, parked] at waits
  rw [isReady, underWay]
  exact (kept.after history).progress_of_closed (kept.closed_after closed history) underWay waits

/-- What was known of a batch at a release shows in its answer. -/
theorem Kept.outcome_closed (kept : yard.Kept) (closed : yard.slots.closed = true)
    {history : List (Event Body)} {batch : Batch Body} {reply : Reply}
    (found : yard.calls.get? id = some (.batch batch))
    (answered : ((yard.after history).poll id).1 = some reply) :
    ∃ outcome, reply = .executed (some outcome) ∧ outcome.Covers batch.tasks ∧
      ((yard.after history).FailsWhole batch outcome ∨
        ∀ entry ∈ batch.unsubmitted, turnedAway entry.task ∈ outcome.errors) := by
  have turn : HasTurn (batch.unsubmitted.map Entry.task) batch := fun task member => .inl member
  cases underWay : (yard.after history).calls.get? id with
  | none => simp [poll_of_absent underWay] at answered
  | some call =>
    obtain ⟨held, rfl, still⟩ := kept.hasTurn_after closed found turn underWay
    obtain ⟨former, same, concern⟩ :=
      kept.concern_after (kept.inOrder.numbered found) underWay
    rw [found, Option.some.injEq] at same
    subst same
    have met := ((kept.after history).inOrder.poll underWay).met answered
    rw [← concern] at met
    obtain ⟨outcome, rfl, sound, tasks⟩ := met.outcome
    refine ⟨outcome, rfl, sound.covers tasks, ?_⟩
    refine ((kept.after history).answer_closed (kept.closed_after closed history) underWay still
      answered).imp (fun fails => fails.of_concern concern.symm) fun away entry member => ?_
    exact away entry.task (List.mem_map_of_mem member)

/-- A release is final, whatever the yard was and whatever happens later. -/
theorem settles {options : Options} {start : Yard Body}
    (opened : openNoted? options = .ok start) (earlier later : List (Event Body)) :
    Settles (start.after earlier) later (start.after (earlier ++ .release :: later)) := by
  have kept := (kept_openNoted? opened).1.after earlier
  have released := kept.step .release
  have shut : ((start.after earlier).step .release).slots.closed = true := rfl
  have empty := released.backlog_after shut rfl later
  rw [after_append, after_cons]
  have keptNow := released.after later
  have closed := released.closed_after shut later
  exact {
    closed := closed
    running := fun more => by
      rw [(keptNow.after more).inOrder.staffed, keptNow.inOrder.staffed]
      exact (keptNow.jobs_after_of_closed closed more).1
    backlog := by
      refine ⟨congrArg Backlog.batches empty, fun scope => ⟨?_, ?_⟩⟩
      · rw [pending, empty]
        rfl
      · exact begin_exec_of_empty empty scope
    submits := keptNow.begin_submit_closed closed
    commissions := fun scope body going => keptNow.begin_submitTask_closed closed going body
    pushes := fun scope label body going => push_of_closed going closed label body
    undisturbed := Undisturbed.after ⟨_, _, _, rfl⟩
    continues := fun job member => released.continues_after member
    former := (released.jobs_after_of_closed shut later).2
    waits := fun id call found parked apart =>
      ⟨released.isReady_of_parked shut found parked apart, fun reply refused =>
        poll_closed closed (released.parked_after found refused apart) refused⟩
    looked := keptNow.unparked_of_poll closed
    waiting := keptNow.waiting_of_quiet closed
    batches := fun id batch reply found => released.outcome_closed shut found
    answered := fun id batch found => keptNow.answered_closed closed found
    again := release_of_closed closed empty
    drains := keptNow.drain_of_closed closed }

/-- The only slot has been handed to a submitter that has not come back for it, and a batch waits
behind it. -/
def handed : List (Event Unit) :=
  [.openScope .root, .push ⟨1⟩ "task" (), .begin (.submit ()), .begin (.submit ()),
    .begin (.exec ⟨1⟩), .start ⟨0⟩, .finish ⟨0⟩ (.returned (.text "done"))]

/-- The submitter is refused all the same, and so is the task of the batch. -/
theorem settles_handed : ∃ (start : Yard Unit) (batch : Batch Unit) (outcome : Outcome),
    openNoted? (.ofCapacity 1) = .ok start ∧
    Settles (start.after handed) [] (start.after (handed ++ [.release])) ∧
    (start.after handed).slots.granted = [⟨1⟩] ∧
    ((start.after (handed ++ [.release])).poll ⟨1⟩).1 = some (.submitted (.error .closed)) ∧
    (start.after handed).calls.get? ⟨2⟩ = some (.batch batch) ∧
    ((start.after (handed ++ [.release])).poll ⟨2⟩).1 = some (.executed (some outcome)) ∧
    outcome.Covers batch.tasks ∧ turnedAway ⟨0, "task"⟩ ∈ outcome.errors := by
  have run : ∃ (start : Yard Unit) (batch : Batch Unit) (outcome : Outcome),
      openNoted? (.ofCapacity 1) = .ok start ∧
      (start.after handed).slots.granted = [⟨1⟩] ∧
      (start.after handed).calls.get? ⟨1⟩ = some (.submit ()) ∧
      (start.after handed).calls.get? ⟨2⟩ = some (.batch batch) ∧
      ((start.after (handed ++ [.release])).poll ⟨2⟩).1 = some (.executed (some outcome)) ∧
      turnedAway ⟨0, "task"⟩ ∈ outcome.errors :=
    ⟨_, _, _, rfl, rfl, rfl, rfl, rfl, List.mem_singleton_self _⟩
  obtain ⟨start, batch, outcome, opened, granted, submitter, found, answered, away⟩ := run
  have final := settles opened handed []
  obtain ⟨-, refused⟩ := final.waits ⟨1⟩ _ submitter rfl fun _ none => absurd none List.not_mem_nil
  obtain ⟨_, same, covers, -⟩ := final.batches ⟨2⟩ batch _ found answered
  cases same
  exact ⟨start, batch, outcome, opened, final, granted, refused _ rfl, found, answered, covers,
    away⟩

end Yard

end Taskyard

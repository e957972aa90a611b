/-
This file says which bodies of the batches of a scope still start after the
scope has ended. One would like that to be none. A batch that is not taken out of
the backlog by then starts nothing, and nothing is pushed any more. But a body
that has its slot and is about to start is not told of the end before it starts;
and a batch that waits for a slot and finds one when it looks takes it, although
it fails in the same poll. The file shows that these are the only ways for a body
to start late, and that both are open: as long as there is such a body, there is
something that lets one start.
-/

import Taskyard.Proofs.AtMostOnce
import Taskyard.Proofs.EndReasons
import Taskyard.Proofs.Line
import Taskyard.Proofs.Staffing

namespace Taskyard

variable {Body : Type}

/-- The scope of the batch that a body belongs to, if it belongs to one. -/
def Purpose.scope? : Purpose → Option ScopeId
  | .errand | .solo _ => none
  | .member _ _ scope => some scope

namespace Yard

variable {yard start : Yard Body} {scope : ScopeId} {call : CallId}

/-! ### What may start late -/

/-- The bodies for which an event asks for slots. -/
def offering (yard : Yard Body) : Event Body → List (Assignment Body)
  | .begin request => yard.offered request
  | _ => []

/-- What starts at an event could start before it, or is asked for by it. -/
theorem Kept.countP_step (kept : yard.Kept) (event : Event Body) (mine : Assignment Body → Bool) :
    (yard.step event).outstanding.countP mine +
        ((yard.starting event).map Job.assignment).countP mine ≤
      yard.outstanding.countP mine + (yard.offering event).countP mine := by
  have balances : yard.Balances (yard.step event) (yard.offering event)
      ((yard.starting event).map Job.assignment) := by
    cases event with
    | begin request => exact kept.balances_begin request
    | _ => exact kept.balances_step _
  obtain ⟨_, -, counts⟩ := balances
  have counted := counts mine
  omega

/-- Nobody asks for slots for the bodies of a scope that has ended. -/
theorem scope?_of_offering {event : Event Body} {assignment : Assignment Body}
    (ended : (yard.ended? scope).isSome) (member : assignment ∈ yard.offering event) :
    assignment.purpose.scope? ≠ some scope := by
  cases event with
  | begin request =>
    simp only [offering, offered] at member
    split at member
    · cases member
    · next inTime =>
      cases request with
      | submit body =>
        rw [List.mem_singleton.mp member]
        exact fun none => by cases none
      | submitTask other body =>
        rw [List.mem_singleton.mp member]
        exact fun none => by cases none
      | exec other =>
        obtain ⟨entry, -, rfl⟩ := List.mem_map.mp member
        intro same
        cases same
        exact inTime ended
      | drain timeout => cases member
      | watch other => cases member
  | _ => cases member

/-- What starts of the bodies of a scope that has ended could start when it had. -/
theorem Kept.countP_after (kept : yard.Kept) (honest : yard.scopes.Honest yard.now)
    (ended : (yard.ended? scope).isSome) {mine : Assignment Body → Bool}
    (under : ∀ assignment, mine assignment = true → assignment.purpose.scope? = some scope)
    (later : List (Event Body)) :
    (yard.after later).outstanding.countP mine +
        ((yard.chronicle starting later).map Job.assignment).countP mine ≤
      yard.outstanding.countP mine := by
  induction later generalizing yard with
  | nil => exact Nat.le_refl _
  | cons event rest inductionHypothesis =>
    have counted := kept.countP_step event mine
    have behind := inductionHypothesis (kept.step event) (kept.honest_after honest [event])
      (kept.ended_after honest ended [event])
    have nothing : (yard.offering event).countP mine = 0 :=
      List.countP_eq_zero.mpr fun assignment member counts =>
        scope?_of_offering ended member (under assignment counts)
    simp only [chronicle, after_cons, List.map_append, List.countP_append] at behind ⊢
    omega

/-- A body of a scope that starts late could start when the scope had ended. -/
theorem Kept.mem_outstanding_of_late (kept : yard.Kept) (honest : yard.scopes.Honest yard.now)
    (ended : (yard.ended? scope).isSome) {later : List (Event Body)} {job : Job Body}
    (starts : job ∈ yard.chronicle starting later) (under : job.purpose.scope? = some scope) :
    job.assignment ∈ yard.outstanding := by
  refine mem_of_countP_le (fun mine only => ?_) (List.mem_map_of_mem starts)
  have counted := kept.countP_after honest ended
    (fun assignment counts => only assignment counts ▸ under) later
  exact Nat.le_trans (Nat.le_add_left _ _) counted

/-- Where the slots are closed, only jobs start that there are. -/
theorem Kept.ready_step (kept : yard.Kept) (closed : yard.slots.closed = true)
    (event : Event Body) (mine : Assignment Body → Bool) :
    (ready (yard.step event).jobs).countP mine +
        ((yard.starting event).map Job.assignment).countP mine ≤ (ready yard.jobs).countP mine := by
  cases kept.staffs event with
  | hires recruits jobs idle none starts =>
    rw [jobs, none closed, List.append_nil, starts]
    exact Nat.le_refl _
  | starts id same =>
    subst same
    exact Nat.le_of_eq (countP_ready_start id yard.jobs mine)
  | dismisses job member about jobs =>
    have nothing : yard.starting event = [] := by
      rcases about with rfl | ⟨ending, rfl, -⟩ <;> rfl
    rw [jobs, nothing]
    exact ((List.filter_sublist.filter _).map _).countP_le

theorem Kept.ready_after (kept : yard.Kept) (closed : yard.slots.closed = true)
    (later : List (Event Body)) (mine : Assignment Body → Bool) :
    (ready (yard.after later).jobs).countP mine +
        ((yard.chronicle starting later).map Job.assignment).countP mine ≤
      (ready yard.jobs).countP mine := by
  induction later generalizing yard with
  | nil => exact Nat.le_refl _
  | cons event rest inductionHypothesis =>
    have counted := kept.ready_step closed event mine
    have behind := inductionHypothesis (kept.step event) (kept.closed_step closed event)
    simp only [chronicle, after_cons, List.map_append, List.countP_append] at behind ⊢
    omega

/-- A body that starts while the slots are closed had its slot when they were. -/
theorem Kept.mem_ready_of_closed (kept : yard.Kept) (closed : yard.slots.closed = true)
    {later : List (Event Body)} {job : Job Body} (starts : job ∈ yard.chronicle starting later) :
    job.assignment ∈ ready yard.jobs :=
  mem_of_countP_le
    (fun mine _ => Nat.le_trans (Nat.le_add_left _ _) (kept.ready_after closed later mine))
    (List.mem_map_of_mem starts)

/-! ### A batch that waits for a slot -/

/-- A batch of a scope that has ended is answered in its next poll, whatever else that does. -/
theorem Kept.answered_of_ended (kept : yard.Kept) {batch : Batch Body}
    (found : yard.calls.get? call = some (.batch batch))
    (ended : (yard.ended? batch.scope).isSome) :
    (∃ outcome, (yard.poll call).1 = some (.executed (some outcome))) ∧
      (yard.poll call).2.calls.get? call = none := by
  have settled := kept.inOrder.dispatched found
  have scopes : (yard.submitted call batch).2.scopes = yard.scopes :=
    (dispatch_yard call batch batch.queued batch.unsubmitted yard batch.outcome).1
  obtain ⟨_, _, _, same⟩ :=
    dispatch_batch call batch batch.queued batch.unsubmitted yard batch.outcome
  have answer := poll_of_batch found
  have replied : ∃ outcome, (yard.poll call).1 = some (.executed (some outcome)) := by
    rw [answer]
    rcases pollBatch_cases yard call batch with ⟨-, complete⟩ | ⟨-, journal, goesOn⟩
    · exact ⟨_, complete⟩
    · rw [goesOn]
      rcases awaitBatch_cases { (yard.submitted call batch).2 with journal := journal } call
        (yard.submitted call batch).1.looked with ⟨error, failed⟩ | ⟨going, -⟩
      · exact ⟨_, failed⟩
      · have scope : (yard.submitted call batch).1.scope = batch.scope := by rw [submitted, same]
        rw [Batch.scope_looked, scope, ended?, scopes, settled.dealt.dealing.now, ← ended?] at going
        rw [going] at ended
        cases ended
  obtain ⟨outcome, told⟩ := replied
  refine ⟨⟨outcome, told⟩, ?_⟩
  have own := (kept.inOrder.poll found).own
  rcases polled : yard.poll call with ⟨reply, later⟩
  rw [polled] at own told
  cases told
  exact own.2

/-- A call to which a slot was handed gets a job for its first body when it looks. -/
theorem place_granted {first : Assignment Body} {floor : Floor Body}
    (opened : floor.slots.closed = false) (handed : call ∈ floor.slots.granted)
    (rest : List (Assignment Body)) :
    ⟨⟨floor.jobCount⟩, first.purpose, first.body, false⟩ ∈
      (floor.place call true (first :: rest)).floor.jobs := by
  have again : floor.slots.turn call true = floor.slots.askAgain call := if_pos rfl
  rcases floor.slots.askAgain_cases call with ⟨closed, -⟩ | ⟨-, -, told⟩ | ⟨-, unhanded, -⟩
  · rw [opened] at closed
    cases closed
  · simp only [Floor.place, again, told]
    obtain ⟨recruits, jobs, -⟩ := exists_recruits call false rest (Floor.enlist { floor with
      slots := { floor.slots with
        waiting := floor.slots.waiting - 1
        granted := floor.slots.granted.erase call
        running := floor.slots.running + 1 } } first)
    rw [jobs]
    exact List.mem_append_left _ (List.mem_append_right _ (List.mem_singleton_self _))
  · exact absurd handed unhanded

theorem job?_startJob (yard : Yard Body) (id : JobId) : (yard.startJob id).job? id =
    (yard.job? id).map fun job => { job with started := true } := by
  have unmoved : (fun job : Job Body => decide (job.id = id)) ∘
      (fun job => if job.id = id then { job with started := true } else job) =
        fun job => decide (job.id = id) := by
    funext job
    simp only [Function.comp_apply]
    split <;> rfl
  rw [job?, startJob, List.find?_map, unmoved, ← job?]
  cases found : yard.job? id with
  | none => rfl
  | some job => simp [(mem_of_job? found).2]

theorem slots_finishJob {id : JobId} {job : Job Body} (found : yard.job? id = some job)
    (started : job.started = true) (ending : Ending) :
    (yard.finishJob id ending).slots = yard.slots.leave := by
  have delivered : (yard.deliver job.purpose ending).slots = yard.slots := by
    obtain ⟨journal, reported, same⟩ := yard.deliver_eq job.purpose ending
    rw [same]
  simp only [finishJob, found, started, if_true, discharge, delivered]

/-- A body that has a slot may start and end, and gives its slot back. -/
theorem exists_leave {job : Job Body} (member : job ∈ yard.jobs) : ∃ later,
    (∀ event ∈ later, event.call? = none) ∧ (yard.after later).slots = yard.slots.leave := by
  obtain ⟨other, found⟩ : ∃ other, yard.job? job.id = some other :=
    Option.isSome_iff_exists.mp (List.find?_isSome.mpr ⟨job, member, by simp⟩)
  refine ⟨[.start job.id, .finish job.id (.panicked .other)], by simp [Event.call?], ?_⟩
  have running : (yard.startJob job.id).job? job.id = some { other with started := true } := by
    rw [job?_startJob, found, Option.map_some]
  exact slots_finishJob running rfl _

/-- A call that is first in the queue may be handed a slot. -/
theorem Kept.exists_handed (kept : yard.Kept) (roomy : 0 < yard.slots.capacity)
    (opened : yard.slots.closed = false) {rest : List CallId}
    (first : yard.slots.queue = call :: rest) :
    ∃ later, (∀ event ∈ later, event.call? ≠ some call) ∧
      call ∈ (yard.after later).slots.granted ∧ (yard.after later).slots.closed = false := by
  have sound := kept.inOrder.slots
  cases granted : yard.slots.granted with
  | cons other others =>
    -- Somebody else was handed a slot and goes away.
    have handed : other ∈ yard.slots.granted := granted ▸ List.mem_cons_self
    have apart : other ≠ call := fun same => by
      have queued : call ∈ yard.slots.queue := first ▸ List.mem_cons_self
      exact List.disjoint_of_nodup_append sound.distinct queued (same ▸ handed)
    refine ⟨[.drop other], by simpa [Event.call?] using apart, ?_, ?_⟩
    · obtain ⟨now, -⟩ := Slots.withdraw_of_granted opened handed first
      show call ∈ (yard.slots.withdraw other).granted
      rw [now]
      exact List.mem_append_right _ (List.mem_singleton_self call)
    · exact (yard.slots.withdraw_frame other).2.1.trans opened
  | nil =>
    -- Every slot is taken, and one of the bodies ends.
    have conserved := sound.conserved
    have none := sound.fair opened (by simp [first])
    simp only [Slots.places, none, granted, List.length_nil] at conserved
    have busy : 0 < yard.jobs.length := kept.inOrder.staffed ▸ (by omega)
    obtain ⟨job, member⟩ := List.exists_mem_of_length_pos busy
    obtain ⟨later, foreign, left⟩ := exists_leave member
    refine ⟨later, fun event member => by simp [foreign event member], ?_, ?_⟩
    · simp [left, Slots.leave, Slots.giveBack, opened, first]
    · rw [left]
      exact yard.slots.leave_frame.2.1.trans opened

/-- A call that is in the queue may be handed a slot. Those before it may go away. -/
theorem Kept.exists_granted (kept : yard.Kept) (roomy : 0 < yard.slots.capacity)
    (opened : yard.slots.closed = false) {before rest : List CallId}
    (queue : yard.slots.queue = before ++ call :: rest) :
    ∃ later, (∀ event ∈ later, event.call? ≠ some call) ∧
      call ∈ (yard.after later).slots.granted ∧ (yard.after later).slots.closed = false := by
  induction before generalizing yard with
  | nil => exact kept.exists_handed roomy opened queue
  | cons first before inductionHypothesis =>
    have queued : first ∈ yard.slots.queue := queue ▸ List.mem_cons_self
    have distinct := kept.inOrder.slots.distinct
    have unhanded : first ∉ yard.slots.granted := List.disjoint_of_nodup_append distinct queued
    have apart : first ≠ call := fun same => by
      have nodup := (List.nodup_append.mp distinct).1
      rw [queue, List.cons_append, List.nodup_cons] at nodup
      exact nodup.1 (same ▸ List.mem_append_right _ List.mem_cons_self)
    have frame := yard.slots.withdraw_frame first
    have shorter : (yard.slots.withdraw first).queue = before ++ call :: rest := by
      rw [Slots.withdraw, if_neg unhanded, if_pos queued]
      simp [queue]
    obtain ⟨later, foreign, handed, still⟩ := inductionHypothesis
      (kept.step (.drop first)) (frame.1.symm ▸ roomy) (frame.2.1.trans opened) shorter
    refine ⟨.drop first :: later, ?_, handed, still⟩
    exact List.forall_mem_cons.mpr ⟨by simpa [Event.call?] using apart, foreign⟩

/-- As long as the slots are open, a batch that has tasks left to submit may have one started. -/
theorem Kept.exists_start (kept : yard.Kept) (roomy : 0 < yard.slots.capacity)
    (opened : yard.slots.closed = false) {batch : Batch Body}
    (found : yard.calls.get? call = some (.batch batch)) (left : batch.unsubmitted ≠ []) :
    ∃ later, ∃ job ∈ yard.chronicle starting later, job.purpose.scope? = some batch.scope := by
  have queued := (kept.inOrder.fits call _ (by simp) found).2 left
  have known := kept.inOrder.numbered found
  have parked : call ∈ yard.slots.parked :=
    (kept.inOrder.parked call (by simp)).mpr ⟨_, found, queued⟩
  obtain ⟨before, foreign, handed, still⟩ : ∃ later,
      (∀ event ∈ later, event.call? ≠ some call) ∧
        call ∈ (yard.after later).slots.granted ∧ (yard.after later).slots.closed = false := by
    rcases List.mem_append.mp parked with waits | handed
    · obtain ⟨first, rest, queue⟩ := List.append_of_mem waits
      exact kept.exists_granted roomy opened queue
    · exact ⟨[], List.forall_mem_nil _, handed, opened⟩
  have same := kept.unheard_after known foreign
  rw [found, Option.map_some, Option.map_eq_some_iff] at same
  obtain ⟨held, underWay, unheard⟩ := same
  obtain ⟨inbox, rfl⟩ := Call.eq_batch_of_unheard unheard
  obtain ⟨entry, rest, unsubmitted⟩ := List.exists_cons_of_ne_nil left
  have places := places_poll underWay
  rw [show (Call.batch { batch with inbox := inbox }).isParked = true from queued] at places
  simp only [Call.assignments, unsubmitted, List.map_cons] at places
  let job : Job Body :=
    ⟨⟨(yard.after before).jobCount⟩, .member call entry.task batch.scope, entry.body, false⟩
  have placed : job ∈ ((yard.after before).floor.place call true
      (entry.assignment call batch.scope ::
        rest.map fun entry => entry.assignment call batch.scope)).floor.jobs :=
    place_granted still handed _
  rw [← places.parts.jobs] at placed
  refine ⟨before ++ [.poll call, .start job.id], job, ?_, rfl⟩
  rw [chronicle_append]
  refine List.mem_append_right _ (List.mem_append_right _ (List.mem_append_left _ ?_))
  exact List.mem_filter.mpr ⟨placed, by simp [job]⟩

/-! ### From the opening on -/

/-- Whether a body of a batch of a scope has its slot and has not started, or may get a slot for
which its batch waits. -/
def MayStart (yard : Yard Body) (scope : ScopeId) : Prop :=
  (∃ job ∈ yard.jobs, job.purpose.scope? = some scope ∧ job.started = false) ∨
    (yard.slots.closed = false ∧ ∃ call batch, yard.calls.get? call = some (.batch batch) ∧
      batch.scope = scope ∧ batch.unsubmitted ≠ [])

/-- What is promised of the bodies of the batches of a scope when the scope has ended. -/
structure LimitsLateStarts (start : Yard Body) (history : List (Event Body)) (scope : ScopeId) :
    Prop where
  /-- A task that is still in the backlog never starts. -/
  stored : ∀ later, ∀ entry ∈ (start.after history).backlog.batch scope,
    entry.task ∉ start.startedTasks (history ++ later)
  /-- No task is pushed any more. -/
  refused : ∀ later label body, ∃ reason,
    ((start.after (history ++ later)).push scope label body).1 = .error (.scope reason)
  /-- A body that starts late had its slot when the scope ended, or its batch waited for one while
  the slots were open. -/
  origin : ∀ later, ∀ job ∈ (start.after history).chronicle starting later,
    job.purpose.scope? = some scope →
    (∃ former ∈ (start.after history).jobs,
      former.started = false ∧ former.assignment = job.assignment) ∨
    ((start.after history).slots.closed = false ∧ ∃ call batch,
      (start.after history).calls.get? call = some (.batch batch) ∧ batch.scope = scope ∧
      ∃ entry ∈ batch.unsubmitted, entry.assignment call scope = job.assignment)
  /-- A batch gets no slots after its next poll, because it is over then. -/
  lastPoll : ∀ later call batch,
    (start.after (history ++ later)).calls.get? call = some (.batch batch) →
    batch.scope = scope →
    (∃ outcome, ((start.after (history ++ later)).poll call).1 =
      some (.executed (some outcome))) ∧
      ((start.after (history ++ later)).poll call).2.calls.get? call = none
  /-- A body may start late exactly if there is one left. -/
  exactly : (∃ later, ∃ job ∈ (start.after history).chronicle starting later,
    job.purpose.scope? = some scope) ↔ (start.after history).MayStart scope

/-- A body of a scope that may start has its slot, or a batch of the scope has it left to
submit. -/
theorem Kept.ready_or_unsubmitted (kept : yard.Kept) {assignment : Assignment Body}
    (member : assignment ∈ yard.outstanding) (under : assignment.purpose.scope? = some scope) :
    assignment ∈ ready yard.jobs ∨ ∃ call batch, yard.calls.get? call = some (.batch batch) ∧
      batch.scope = scope ∧ ∃ entry ∈ batch.unsubmitted,
        entry.assignment call scope = assignment := by
  refine (List.mem_append.mp member).imp_right fun wants => ?_
  obtain ⟨⟨call, held⟩, listed, wants⟩ := List.mem_flatMap.mp wants
  have found := (Listing.get?_eq_some_iff kept.inOrder.callsDistinct).mpr listed
  cases held with
  | batch batch =>
    obtain ⟨entry, left, rfl⟩ := List.mem_map.mp wants
    cases under
    exact ⟨call, batch, found, rfl, entry, left, rfl⟩
  | submit body =>
    rw [List.mem_singleton.mp wants] at under
    cases under
  | soloQueued other body =>
    rw [List.mem_singleton.mp wants] at under
    cases under
  | solo other reply => cases wants
  | drain timeout deadline => cases wants
  | watch other => cases wants

theorem mem_ready {assignment : Assignment Body} (member : assignment ∈ ready yard.jobs) :
    ∃ job ∈ yard.jobs, job.started = false ∧ job.assignment = assignment := by
  obtain ⟨job, listed, same⟩ := List.mem_map.mp member
  obtain ⟨listed, idle⟩ := List.mem_filter.mp listed
  exact ⟨job, listed, by simpa using idle, same⟩

/-- Where a body that starts late comes from. -/
theorem Kept.origin_of_late (kept : yard.Kept) (honest : yard.scopes.Honest yard.now)
    (ended : (yard.ended? scope).isSome) {later : List (Event Body)} {job : Job Body}
    (starts : job ∈ yard.chronicle starting later) (under : job.purpose.scope? = some scope) :
    (∃ former ∈ yard.jobs, former.started = false ∧ former.assignment = job.assignment) ∨
      (yard.slots.closed = false ∧ ∃ call batch, yard.calls.get? call = some (.batch batch) ∧
        batch.scope = scope ∧ ∃ entry ∈ batch.unsubmitted,
          entry.assignment call scope = job.assignment) := by
  cases closed : yard.slots.closed with
  | true => exact .inl (mem_ready (kept.mem_ready_of_closed closed starts))
  | false =>
    have member := kept.mem_outstanding_of_late honest ended starts under
    exact (kept.ready_or_unsubmitted member under).imp mem_ready fun waits => ⟨rfl, waits⟩

section

variable {options : Options} (opened : openNoted? options = .ok start)

include opened

/-- There is always a slot to be had in principle. -/
theorem roomy_of_opened (history : List (Event Body)) :
    0 < (start.after history).slots.capacity := by
  have reached : Reached options (start.after history) := ⟨start, history, opened, rfl⟩
  rw [reached.kept.2.2]
  obtain ⟨slots, places, -⟩ := openNoted?_eq opened
  unfold Slots.open? at places
  split at places
  · cases places
  · next sound => omega

/-- A task in the backlog was pushed under its scope. -/
theorem pushed_of_stored {history : List (Event Body)} {entry : Entry Body}
    (listed : entry ∈ (start.after history).backlog.batch scope) (later : List (Event Body)) :
    (scope, entry) ∈ start.chronicle pushing (history ++ later) := by
  obtain ⟨kept, distinct⟩ := kept_of_opened opened
  have stocks := kept.stocks_after distinct history
  rw [chronicle_append]
  exact List.mem_append_left _
    (stocks.mem (nothing_of_opened opened).2.1 (Backlog.mem_entries stocks.distinct listed))

/-- A task that is in the backlog of a scope that has ended never starts. -/
theorem not_mem_of_stored {history : List (Event Body)} {entry : Entry Body}
    (ended : ((start.after history).ended? scope).isSome)
    (listed : entry ∈ (start.after history).backlog.batch scope) (later : List (Event Body)) :
    entry.task ∉ start.startedTasks (history ++ later) := by
  obtain ⟨kept, distinct⟩ := kept_of_opened opened
  have stored := one_le_entries (kept.stocks_after distinct history).distinct listed
  intro started
  obtain ⟨job, member, same⟩ := List.mem_filterMap.mp started
  obtain ⟨earlier, event, rest, split, starts⟩ := mem_chronicle member
  cases purpose : job.purpose with
  | errand => simp [purpose, Purpose.task?] at same
  | solo call => simp [purpose, Purpose.task?] at same
  | member call task under =>
    obtain rfl : task = entry.task := by simpa [purpose, Purpose.task?] using same
    -- It was pushed once, so it is this scope whose batch it belongs to.
    obtain ⟨before, between, rfl, -, taken⟩ := takes_of_starting opened starts purpose
    have pushed := pushed_of_stored opened taken
      (.begin (.exec under) :: between ++ event :: rest)
    rw [← List.append_assoc, ← split] at pushed
    have equal := eq_of_countP_le_one (countP_pushing_le opened (history ++ later) entry.task)
      pushed (pushed_of_stored opened listed later) (by simp) (by simp)
    obtain rfl : under = scope := congrArg Prod.fst equal
    rw [chronicle_append] at member
    rcases List.mem_append.mp member with early | late
    · have placed : entry.task ∉ start.startedTasks history := by
        refine unstarted_of_stake opened ?_
        unfold stake
        omega
      exact placed (List.mem_filterMap.mpr ⟨job, early, same⟩)
    · have twice := (kept.after history).mem_outstanding_of_late (honest_of_opened opened history)
        ended late (by rw [purpose]; rfl)
      have single := stake_le opened history entry.task
      have waits : 0 < (start.after history).outstanding.countP (Assignment.isFor entry.task) :=
        List.countP_pos_iff.mpr ⟨_, twice, by simp [Assignment.isFor, Job.assignment, same]⟩
      unfold stake at single
      omega

/-- When a scope has ended, only bodies still start that had their slots by then, and some for which
their batches waited; and where there are such bodies one of them may start. -/
theorem limitsLateStarts {history : List (Event Body)}
    (ended : ((start.after history).ended? scope).isSome) :
    start.LimitsLateStarts history scope := by
  have kept := (kept_openNoted? opened).1.after history
  have honest := honest_of_opened opened history
  have lasts : ∀ later, ((start.after (history ++ later)).ended? scope).isSome := fun later => by
    rw [after_append]
    exact kept.ended_after honest ended later
  exact {
    stored := fun later entry listed => not_mem_of_stored opened ended listed later
    refused := fun later label body => by
      obtain ⟨reason, known⟩ := Option.isSome_iff_exists.mp (lasts later)
      exact ⟨reason, by rw [push, query_of_some known]⟩
    origin := fun later job starts under => kept.origin_of_late honest ended starts under
    lastPoll := fun later call batch found under => by
      have keptThen := (kept_openNoted? opened).1.after (history ++ later)
      exact keptThen.answered_of_ended found (under ▸ lasts later)
    exactly := by
      constructor
      · rintro ⟨later, job, starts, under⟩
        refine (kept.origin_of_late honest ended starts under).imp ?_ ?_
        · rintro ⟨former, member, idle, same⟩
          have purpose : former.purpose = job.purpose := congrArg Assignment.purpose same
          exact ⟨former, member, purpose ▸ under, idle⟩
        · rintro ⟨opened, call, batch, found, scope, entry, left, -⟩
          exact ⟨opened, call, batch, found, scope, List.ne_nil_of_mem left⟩
      · rintro (⟨job, member, under, idle⟩ | ⟨unclosed, call, batch, found, rfl, left⟩)
        · refine ⟨[.start job.id], job, List.mem_append_left _ ?_, under⟩
          exact List.mem_filter.mpr ⟨member, by simp [idle]⟩
        · exact kept.exists_start (roomy_of_opened opened history) unclosed found left }

end

/-- Two bodies of a batch have slots; the scope ends while the second is about to start. -/
def doomed : List (Event Unit) :=
  [.openScope .root, .push ⟨1⟩ "first" (), .push ⟨1⟩ "second" (), .begin (.exec ⟨1⟩), .start ⟨0⟩,
    .cancel ⟨1⟩]

/-- A body may start though its scope has ended. -/
theorem exists_late_start : ∃ start : Yard Unit, openNoted? (.ofCapacity 2) = .ok start ∧
    (start.after doomed).ended? ⟨1⟩ = some .cancelled ∧
    start.startedTasks doomed = [⟨0, "first"⟩] ∧
    start.startedTasks (doomed ++ [.start ⟨1⟩]) = [⟨0, "first"⟩, ⟨1, "second"⟩] :=
  ⟨_, rfl, rfl, rfl, rfl⟩

/-- Two bodies of a batch share a slot; the first of them cancels their scope and ends. -/
def bequeathed : List (Event Unit) :=
  [.openScope .root, .push ⟨1⟩ "first" (), .push ⟨1⟩ "second" (), .begin (.exec ⟨1⟩), .start ⟨0⟩,
    .cancel ⟨1⟩, .finish ⟨0⟩ (.returned (.text "done"))]

/-- The batch takes the slot for the second body in the poll in which it fails, and the body may
start. -/
theorem limitsLateStarts_bequeathed : ∃ start : Yard Unit,
    openNoted? (.ofCapacity 1) = .ok start ∧
    ((start.after bequeathed).ended? ⟨1⟩).isSome ∧
    ((start.after bequeathed).poll ⟨0⟩).1 = some (.executed (some
      (.failAll [⟨0, "first"⟩, ⟨1, "second"⟩] (.scope .cancelled)))) ∧
    ((start.after bequeathed).chronicle starting [.poll ⟨0⟩, .start ⟨1⟩]).map Job.purpose =
      [.member ⟨0⟩ ⟨1, "second"⟩ ⟨1⟩] ∧
    start.LimitsLateStarts bequeathed ⟨1⟩ := by
  have run : ∃ start : Yard Unit, openNoted? (.ofCapacity 1) = .ok start ∧
      ((start.after bequeathed).ended? ⟨1⟩).isSome ∧
      ((start.after bequeathed).poll ⟨0⟩).1 = some (.executed (some
        (.failAll [⟨0, "first"⟩, ⟨1, "second"⟩] (.scope .cancelled)))) ∧
      ((start.after bequeathed).chronicle starting [.poll ⟨0⟩, .start ⟨1⟩]).map Job.purpose =
        [.member ⟨0⟩ ⟨1, "second"⟩ ⟨1⟩] := ⟨_, rfl, rfl, rfl, rfl⟩
  obtain ⟨start, opened, ended, failed, starts⟩ := run
  exact ⟨start, opened, ended, failed, starts, limitsLateStarts opened ended⟩

end Yard

end Taskyard

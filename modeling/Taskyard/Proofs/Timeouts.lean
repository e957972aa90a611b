/-
This file says what comes of a batch whose timeout is over before it is complete.
All its tasks have the same entry then, with the timeout that the batch took when
it began, and none has a value, however far some of them had come. If the clock
waits for those who have something to look at, and stops wherever somebody may,
the answer comes at the first whole millisecond at which the timeout is over.
The batch waits for nothing any more; a task that had no slot never gets one; and
a body that has one keeps it until it ends or the end of its scope drops it.

A timeout may lie so far ahead that the clock cannot count to it. Its timer is
then set thirty years ahead, and the batch is answered as if it had timed out.
-/

import Taskyard.Proofs.Isolation
import Taskyard.Proofs.Waking
import Taskyard.Workload.Schedule

namespace Taskyard

variable {Body : Type}

/-! ### A clock that waits -/

/-- Whether the clock waits for a call when it moves: it moves while there is nothing for the call
to look at, and passes no moment at which there may be. -/
structure Event.IsPrompt (event : Event Body) (id : CallId) (yard : Yard Body) : Prop where
  content : event.moment?.isSome → yard.isReady id = false
  timely : ∀ moment ∈ event.moment?, ∀ call ∈ yard.calls.get? id, ∀ timer ∈ yard.callTimers call,
    yard.now < timer → moment ≤ timer.firstTick

instance (event : Event Body) (id : CallId) (yard : Yard Body) :
    Decidable (event.IsPrompt id yard) :=
  decidable_of_iff
    ((event.moment?.isSome → yard.isReady id = false) ∧
      ∀ moment ∈ event.moment?, ∀ call ∈ yard.calls.get? id, ∀ timer ∈ yard.callTimers call,
        yard.now < timer → moment ≤ timer.firstTick)
    ⟨fun ⟨content, timely⟩ => ⟨content, timely⟩, fun ⟨content, timely⟩ => ⟨content, timely⟩⟩

/-- The earliest of some moments is not after any of them. -/
theorem foldl_earlier_le (first : Duration) (rest : List Duration) :
    ∀ timer ∈ first :: rest, rest.foldl Duration.earlier first ≤ timer := by
  induction rest generalizing first with
  | nil =>
    intro timer member
    rw [List.mem_singleton.mp member]
    exact Nat.le_refl _
  | cons second rest inductionHypothesis =>
    obtain ⟨least, further⟩ := List.forall_mem_cons.mp
      (inductionHypothesis (first.earlier second))
    refine List.forall_mem_cons.mpr ⟨?_, List.forall_mem_cons.mpr ⟨?_, further⟩⟩
    · exact Nat.le_trans least (first.earlier_le_left second)
    · exact Nat.le_trans least (first.earlier_le_right second)

/-- The clock of a workload waits for every call that an agent waits for. -/
theorem World.isPrompt_of_nextMoment {world : World} {agent : Agent} {wait : Wait} {id : CallId}
    {moment : Duration} (idle : world.isIdle = true) (next : world.nextMoment? = some moment)
    (member : agent ∈ world.agents) (waits : agent.wait = some wait) (on : wait.on = .call id) :
    (Event.tick moment).IsPrompt id world.yard := by
  have asleep : world.isReady agent = false := by
    simp only [isIdle, ready, Bool.and_eq_true, List.isEmpty_iff, List.map_eq_nil_iff,
      List.filter_eq_nil_iff] at idle
    exact Bool.eq_false_iff.mpr (idle.1 agent member)
  have content : world.yard.isReady id = false := by
    simp only [isReady, waits, Bool.or_eq_false_iff, isGone, on] at asleep
    exact asleep.2.2
  unfold nextMoment? at next
  split at next
  · cases next
  · next first rest filtered =>
    cases next
    refine ⟨fun _ => content, ?_⟩
    rintro moment ⟨⟩ call underWay timer listed ahead
    have own : timer ∈ world.agentTimers agent := by
      simp only [agentTimers, waits, on, Option.mem_def.mp underWay]
      exact List.mem_append_right _ listed
    have among : timer ∈ first :: rest := by
      rw [← filtered]
      exact List.mem_filter.mpr ⟨List.mem_append_left _
        (List.mem_flatMap.mpr ⟨agent, member, own⟩), decide_eq_true ahead⟩
    exact Duration.firstTick_le_firstTick (foldl_earlier_le first rest timer among)

/-- When the timeout of a call is over, if it has one. -/
def Concern.deadline? : Concern → Option Duration
  | .batch _ _ deadline _ => some deadline
  | .drain _ deadline => deadline
  | .submit | .solo _ | .watch _ => none

namespace Yard

variable {yard start : Yard Body} {id : CallId} {before history : List (Event Body)}
  {scope : ScopeId} {outcome : Outcome}

/-- Whether the clock waits for a call whenever it moves. -/
def Prompt (id : CallId) (yard : Yard Body) : List (Event Body) → Prop
  | [] => True
  | event :: rest => event.IsPrompt id yard ∧ Prompt id (yard.step event) rest

instance decidablePrompt (id : CallId) : ∀ (yard : Yard Body) (history : List (Event Body)),
    Decidable (yard.Prompt id history)
  | _, [] => inferInstanceAs (Decidable True)
  | yard, event :: rest =>
    have := decidablePrompt id (yard.step event) rest
    inferInstanceAs (Decidable (event.IsPrompt id yard ∧ (yard.step event).Prompt id rest))

theorem prompt_append {first second : List (Event Body)} : yard.Prompt id (first ++ second) ↔
    yard.Prompt id first ∧ (yard.after first).Prompt id second := by
  induction first generalizing yard with
  | nil => exact ⟨fun prompt => ⟨trivial, prompt⟩, fun prompt => prompt.2⟩
  | cons event rest inductionHypothesis =>
    rw [List.cons_append, Prompt, inductionHypothesis, ← and_assoc]
    rfl

/-- An operation that begins does so before the end of its timeout. -/
theorem now_le_of_limited {request : Request Body} {concern : Concern} {deadline : Duration}
    (requested : yard.concern? request = some concern)
    (limited : concern.deadline? = some deadline) : yard.now ≤ deadline := by
  cases request with
  | exec scope =>
    obtain ⟨entries, -, rfl⟩ := Option.map_eq_some_iff.mp requested
    cases limited
    exact yard.now.le_timer yard.timeout
  | drain timeout =>
    cases requested
    obtain ⟨-, rfl⟩ := Duration.after?_eq_some_iff.mp limited
    exact Nat.le_add_right yard.now.nanos timeout.nanos
  | submit | submitTask | watch =>
    cases requested
    cases limited

/-- A call that would hear nothing new has time left, and its timeout is one of its timers. -/
theorem timer_of_limited {call : Call Body} {deadline : Duration}
    (limited : call.concern.deadline? = some deadline)
    (content : yard.wouldProgress id call = false) :
    deadline ∈ yard.callTimers call ∧ yard.now < deadline := by
  cases call with
  | batch held =>
    cases limited
    simp only [wouldProgress, Bool.or_eq_false_iff, decide_eq_false_iff_not] at content
    exact ⟨List.mem_cons_self, Duration.not_le.mp content.1.2⟩
  | drain timeout last =>
    obtain rfl : last = some deadline := limited
    simp only [wouldProgress, Bool.or_eq_false_iff] at content
    exact ⟨List.mem_cons_self, Duration.not_le.mp (of_decide_eq_false content.2)⟩
  | submit | soloQueued | solo | watch => cases limited

/-- A call whose timeout is over is answered when it is polled. -/
theorem Kept.isSome_poll_of_past (kept : yard.Kept) {call : Call Body} {deadline : Duration}
    (found : yard.calls.get? id = some call) (limited : call.concern.deadline? = some deadline)
    (past : deadline ≤ yard.now) : (yard.poll id).1.isSome := by
  have polled := kept.inOrder.poll found
  rcases result : yard.poll id with ⟨answer, later⟩
  rw [result] at polled
  have left := polled.own
  cases answer with
  | some reply => rfl
  | none =>
    obtain ⟨held, -, same, content⟩ := left
    obtain ⟨-, ahead⟩ := timer_of_limited (same ▸ limited) content
    have now : later.now = yard.now := congrArg Surroundings.now polled.surroundings
    exact absurd past (Nat.not_le.mpr (now ▸ ahead))

/-- A clock that waits for a call does not pass the end of its timeout. -/
theorem Kept.ahead_step (kept : yard.Kept) {event : Event Body} {call : Call Body}
    {deadline : Duration} (prompt : event.IsPrompt id yard)
    (found : (yard.step event).calls.get? id = some call)
    (limited : call.concern.deadline? = some deadline)
    (ahead : ∀ former, yard.calls.get? id = some former → former.concern = call.concern →
      yard.now ≤ deadline.firstTick) : (yard.step event).now ≤ deadline.firstTick := by
  obtain ⟨-, still | moved⟩ := kept.now_step event
  · rw [still]
    rcases kept.origin found with known | ⟨request, rfl, rfl⟩
    · obtain ⟨former, underWay, same⟩ := kept.concern_step known found
      exact ahead former underWay same
    · obtain ⟨requested, -⟩ := kept.begun found
      exact Nat.le_trans (now_le_of_limited requested limited) deadline.le_firstTick
  · cases event with
    | tick moment =>
      have now : (yard.step (.tick moment)).now = moment := (Event.tick.inj moved).symm
      have underWay : yard.calls.get? id = some call := by
        obtain ⟨_, -, advanced⟩ := advanceTo_eq yard moment
        rwa [Yard.step, advanced] at found
      have content := prompt.content rfl
      rw [isReady, underWay] at content
      obtain ⟨listed, left⟩ := timer_of_limited limited content
      rw [now]
      exact prompt.timely moment rfl call underWay deadline listed left
    | _ => cases moved

theorem Kept.ahead_after (kept : yard.Kept) {call : Call Body} {deadline : Duration}
    (prompt : yard.Prompt id history) (found : (yard.after history).calls.get? id = some call)
    (limited : call.concern.deadline? = some deadline)
    (ahead : ∀ former, yard.calls.get? id = some former → former.concern = call.concern →
      yard.now ≤ deadline.firstTick) : (yard.after history).now ≤ deadline.firstTick := by
  induction history generalizing yard with
  | nil => exact ahead call found rfl
  | cons event rest inductionHypothesis =>
    refine inductionHypothesis (kept.step event) prompt.2 found fun former underWay same => ?_
    refine kept.ahead_step prompt.1 underWay (same ▸ limited) fun older before alike => ?_
    exact ahead older before (alike.trans same)

theorem isShown_after {options : Options} (opened : openNoted? options = .ok start)
    (history : List (Event Body)) : (start.after history).now.isShown = true := by
  induction history using List.reverseRecOn with
  | nil => exact isShown_of_opened opened
  | append_singleton earlier event inductionHypothesis =>
    rw [after_concat]
    exact ((kept_of_opened opened).1.after earlier).isShown_step inductionHypothesis event

/-! ### The answer -/

/-- A batch is never told that one of its tasks has timed out. -/
theorem not_mem_learning {event : Event Body} {task : TaskId} {span : Duration} :
    (task, .error (.timeout span)) ∉ yard.learning id event := by
  intro told
  rcases List.mem_append.mp told with handed | refused
  · have handed := Option.mem_toList.mp handed
    cases event with
    | finish job ending =>
      have same := (handing_finish handed).1
      cases ending <;> cases same
    | abandon job =>
      simp only [handing, Option.bind_eq_some_iff, Option.map_eq_some_iff] at handed
      obtain ⟨held, -, reason, -, name, -, same⟩ := handed
      cases same
    | _ => cases handed
  · obtain ⟨refusal, -, same⟩ := List.mem_map.mp refused
    cases same

/-- If a task has timed out the whole batch has, and not before its timeout was over. -/
theorem Kept.timedOut (kept : yard.Kept)
    (stocked : ∀ entries, yard.backlog.batches.get? scope = some entries → entries ≠ [])
    (answered : yard.Answered (.exec scope) (.executed (some outcome)) history)
    {task : TaskId} {span : Duration} (late : outcome.error? task = some (.timeout span)) :
    ∃ entries earlier last, yard.backlog.batches.get? scope = some entries ∧
      history = earlier ++ [last] ∧ yard.now.timer yard.timeout ≤ (yard.after earlier).now ∧
      outcome = .failAll (entries.map Entry.task) (.timeout yard.timeout) := by
  obtain ⟨entries, batch, concludes⟩ := kept.concludes stocked answered
  have shown : outcome.errors.get? task = some (some (.timeout span)) :=
    Option.join_eq_some_iff.mp late
  cases concludes with
  | @complete outputs same distinct told =>
    rw [same, (Outcome.get?_recordAll distinct task).1] at shown
    obtain ⟨output, found, timedOut⟩ := Option.map_eq_some_iff.mp shown
    have member := told.mem_iff.mp ((Listing.get?_eq_some_iff distinct).mp found)
    rw [Outcome.entryOf_eq_some_iff.mp timedOut] at member
    obtain ⟨_, _, _, -, learned⟩ := mem_chronicle member
    exact absurd learned not_mem_learning
  | @fails earlier last split whole =>
    cases whole with
    | timeout past same => exact ⟨entries, earlier, last, batch, split, past, same⟩
    | ended ended same => cases Outcome.error?_failAll (same ▸ late)

/-- The clock does not move when a request is answered. -/
theorem Answered.now (kept : yard.Kept) {request : Request Body} {reply : Reply}
    {earlier : List (Event Body)} {last : Event Body}
    (answered : yard.Answered request reply (earlier ++ [last])) :
    (yard.after (earlier ++ [last])).now = (yard.after earlier).now := by
  rw [after_concat]
  obtain ⟨-, still | moved⟩ := (kept.after earlier).now_step last
  · exact still
  · generalize ((yard.after earlier).step last).now = moment at moved ⊢
    subst moved
    generalize split : earlier ++ [.tick moment] = history at answered
    cases answered with
    | atOnce replied => cases (List.append_inj' (split.trans (List.nil_append _).symm) rfl).2
    | inPoll replied => cases (List.append_inj' split rfl).2

/-- Before a request is answered a clock that waits for it has not passed the end of its timeout. -/
theorem Kept.le_firstTick_of_answered (kept : yard.Kept) {request : Request Body}
    {concern : Concern} {deadline : Duration} {reply : Reply}
    (requested : yard.concern? request = some concern) (limited : concern.deadline? = some deadline)
    {earlier : List (Event Body)} {last : Event Body}
    (answered : yard.Answered request reply (earlier ++ [last]))
    (prompt : yard.Prompt ⟨yard.callCount⟩ earlier) :
    (yard.after earlier).now ≤ deadline.firstTick := by
  generalize split : earlier ++ [last] = history at answered
  cases answered with
  | atOnce replied =>
    obtain ⟨rfl, -⟩ := List.append_inj' (split.trans (List.nil_append _).symm) rfl
    exact Nat.le_trans (now_le_of_limited requested limited) deadline.le_firstTick
  | @inPoll between replied =>
    obtain ⟨rfl, -⟩ := List.append_inj' split rfl
    cases found : ((yard.begin request).2.2.after between).calls.get? (yard.begin request).1 with
    | none => simp [poll_of_absent found] at replied
    | some call =>
      have same := requested.symm.trans (kept.begun_after found)
      refine kept.ahead_after prompt found (Option.some.inj same ▸ limited) fun former under => ?_
      -- The operation has not begun, so nothing of that number is under way.
      rw [kept.inOrder.fresh.2.2] at under
      cases under

/-- If a clock waits for an operation that is answered after its timeout, the answer comes at the
first whole millisecond at which the timeout is over. -/
theorem now_eq_firstTick {options : Options} (opened : openNoted? options = .ok start)
    {request : Request Body} {concern : Concern} {deadline : Duration} {reply : Reply}
    (requested : (start.after before).concern? request = some concern)
    (limited : concern.deadline? = some deadline) {earlier : List (Event Body)}
    {last : Event Body}
    (answered : (start.after before).Answered request reply (earlier ++ [last]))
    (past : deadline ≤ ((start.after before).after earlier).now)
    (prompt : start.Prompt (start.callAfter before) (before ++ (earlier ++ [last]))) :
    (start.after (before ++ (earlier ++ [last]))).now = deadline.firstTick := by
  have kept := (kept_of_opened opened).1.after before
  have shown := isShown_after opened (before ++ earlier)
  obtain ⟨-, second⟩ := prompt_append.mp prompt
  obtain ⟨front, -⟩ := prompt_append.mp second
  rw [after_append] at shown
  rw [after_append, answered.now kept]
  exact Duration.eq_firstTick (Duration.isShown_iff.mp shown).1 past
    (kept.le_firstTick_of_answered requested limited answered front)

/-- Whoever has its answer is under way no longer. -/
theorem Kept.absent_of_answered (kept : yard.Kept) {request : Request Body} {reply : Reply}
    (answered : yard.Answered request reply history) (later : List (Event Body)) :
    (yard.after (history ++ later)).calls.get? ⟨yard.callCount⟩ = none := by
  have keptThen := kept.begin request
  have known := kept.known_begin request
  refine Option.eq_none_iff_forall_ne_some.mpr fun call found => ?_
  rw [after_append] at found
  cases answered with
  | atOnce replied =>
    obtain ⟨former, underWay, -⟩ := keptThen.concern_after known found
    have polled := kept.inOrder.begin kept.stocked (kept.begun underWay).1
    cases (polled.waits underWay).1.symm.trans replied
  | @inPoll between replied =>
    have keptBefore := keptThen.after between
    have still := Nat.lt_of_lt_of_le known (keptThen.callCount_le_after between)
    rw [after_concat] at found
    obtain ⟨former, underWay, -⟩ := (keptBefore.step _).concern_after
      (Nat.lt_of_lt_of_le still (keptBefore.callCount_le _)) found
    obtain ⟨held, waiting, -⟩ := keptBefore.concern_step still underWay
    cases ((keptBefore.inOrder.poll waiting).waits underWay).1.symm.trans replied

/-! ### Bodies that have a slot -/

/-- Whether an event is the end of a body that runs under a scope: it ends by itself, or is dropped
because the scope has ended. -/
def Ceases (yard : Yard Body) (scope : ScopeId) (job : Job Body) (event : Event Body) : Prop :=
  (job.started = true ∧ ∃ ending, event = .finish job.id ending) ∨
    ((yard.ended? scope).isSome ∧ event = .abandon job.id)

variable {job : Job Body} {call : CallId} {task : TaskId} {event : Event Body}

/-- When a body ends its slot is free again. -/
theorem InOrderBut.frees (inOrder : yard.InOrder) (member : job ∈ yard.jobs)
    (purpose : job.purpose = .member call task scope) (ceases : yard.Ceases scope job event) :
    (∀ other ∈ (yard.step event).jobs, other.id ≠ job.id) ∧
      (yard.step event).slots.running + 1 = yard.slots.running := by
  rcases ceases with ⟨started, ending, rfl⟩ | ⟨ended, rfl⟩
  · exact (inOrder.retires member started ending).frees inOrder
  · obtain ⟨reason, ended⟩ := Option.isSome_iff_exists.mp ended
    exact (inOrder.abandons member purpose ended).frees inOrder

/-- Until its body ends a job goes on. -/
theorem Kept.continues_of_going (kept : yard.Kept) (member : job ∈ yard.jobs)
    (purpose : job.purpose = .member call task scope) (goesOn : ¬yard.Ceases scope job event) :
    ∃ other ∈ (yard.step event).jobs, job.Continues other := by
  by_cases ends : event.ends? = some job.id
  · cases event with
    | finish id ending =>
      cases ends
      rcases kept.inOrder.finished job.id ending with same | ⟨other, listed, alike, started, -⟩
      · rw [Yard.step, same]
        exact ⟨job, member, .refl job⟩
      · rw [kept.inOrder.eq_of_id listed member alike] at started
        exact absurd (.inl ⟨started, ending, rfl⟩) goesOn
    | abandon id =>
      cases ends
      rcases kept.inOrder.abandoned job.id with
        same | ⟨other, listed, alike, _, _, _, reason, named, ended, -⟩
      · rw [Yard.step, same]
        exact ⟨job, member, .refl job⟩
      · rw [kept.inOrder.eq_of_id listed member alike, purpose] at named
        cases named
        exact absurd (.inr ⟨Option.isSome_of_eq_some ended, rfl⟩) goesOn
    | _ => cases ends
  · exact kept.continues_step member ends

section

variable {options : Options} (opened : openNoted? options = .ok start)

include opened

/-- A job that there is starts, if it has not, as soon as it is told to. -/
theorem mem_starting_start (history : List (Event Body))
    (member : job ∈ (start.after history).jobs) :
    { job with started := false } ∈ start.chronicle starting (history ++ [.start job.id]) := by
  rw [chronicle_concat, List.mem_append]
  cases running : job.started with
  | true =>
    have kept := (kept_of_opened opened).1
    exact .inl (kept.mem_starting (jobs_of_opened opened) history member running)
  | false =>
    obtain ⟨id, purpose, body, _⟩ := job
    cases running
    exact .inr (List.mem_filter.mpr ⟨member, by simp⟩)

/-- Two jobs for the same task are the same. -/
theorem eq_of_task (history : List (Event Body)) {other : Job Body}
    (member : job ∈ (start.after history).jobs) (also : other ∈ (start.after history).jobs)
    (mine : job.purpose.task? = some task) (same : other.purpose.task? = some task) :
    job = other := by
  have inOrder := ((kept_of_opened opened).1.after history).inOrder
  have first := mem_starting_start opened history member
  obtain ⟨still, listed, continues⟩ :=
    ((start.after history).continues_startJob job.id).1 other also
  have second := mem_starting_start opened (history ++ [.start job.id])
    (by rwa [after_concat] : still ∈ (start.after (history ++ [.start job.id])).jobs)
  have filtered : { still with started := false } ∈ _ :=
    List.mem_filter (p := fun other => other.purpose.task? == some task).mpr
      ⟨second, by simp [continues.purpose, same]⟩
  rw [filter_starting opened _ first mine, List.mem_singleton] at filtered
  have id : still.id = job.id := (Job.mk.inj filtered).1
  exact inOrder.eq_of_id member also (id.symm.trans continues.id)

/-- There is no job for a task that never starts. -/
theorem task?_ne_of_never (history : List (Event Body))
    (never : ∀ later, task ∉ start.startedTasks (history ++ later))
    (member : job ∈ (start.after history).jobs) : job.purpose.task? ≠ some task := by
  intro mine
  have starts := mem_starting_start opened history member
  exact never [.start job.id] (List.mem_filterMap.mpr ⟨_, starts, mine⟩)

end

/-! ### After the timeout -/

/-- What has become of a batch that is over, in a yard at any later time, given the call that ran
it, its scope and its tasks. -/
structure IsOver (yard : Yard Body) (call : CallId) (scope : ScopeId)
    (entries : List (Entry Body)) : Prop where
  /-- The call is not among those that wait. -/
  gone : yard.calls.get? call = none ∧ call ∉ yard.slots.parked ∧
    yard.slots.waiting = yard.slots.parked.length
  /-- There is one slot for each body that has one, and of no task there are two. -/
  staffed : yard.slots.running = yard.jobs.length
  single : ∀ entry ∈ entries, ∀ job ∈ yard.jobs, ∀ other ∈ yard.jobs,
    job.purpose.task? = some entry.task → other.purpose.task? = some entry.task → job = other
  /-- A body that has a slot keeps it, whatever happens but its end. -/
  keeps : ∀ entry ∈ entries, ∀ job ∈ yard.jobs, job.purpose.task? = some entry.task → ∀ event,
    ¬yard.Ceases scope job event → ∃ other ∈ (yard.step event).jobs, job.Continues other
  /-- When it ends its slot is free again. -/
  frees : ∀ entry ∈ entries, ∀ job ∈ yard.jobs, job.purpose.task? = some entry.task → ∀ event,
    yard.Ceases scope job event → (∀ other ∈ (yard.step event).jobs, other.id ≠ job.id) ∧
      (yard.step event).slots.running + 1 = yard.slots.running
  /-- If nothing more can happen and the scope has ended, no body has a slot. -/
  empties : yard.isQuiet = true → (yard.ended? scope).isSome → ∀ entry ∈ entries,
    ∀ job ∈ yard.jobs, job.purpose.task? ≠ some entry.task

/-- What comes of a batch if one of its tasks has timed out. -/
structure TimesOut (start : Yard Body) (before : List (Event Body)) (scope : ScopeId)
    (history : List (Event Body)) (outcome : Outcome) : Prop where
  /-- Every task of the batch has timed out, and none has a value. -/
  covers : outcome.Covers (((start.after before).backlog.batch scope).map Entry.task)
  uniform : ∀ entry ∈ (start.after before).backlog.batch scope,
    outcome.errors.get? entry.task = some (some (.timeout (start.after before).timeout))
  valueless : outcome.results = []
  /-- The timeout is the one that the batch used up when it began. -/
  usedUp : ((start.after before).step (.begin (.exec scope))).nextTimeout = none
  /-- If the clock waited for the batch, it is answered at the first whole millisecond at which the
  timeout is over. -/
  onTime : start.Prompt (start.callAfter before) (before ++ history) →
    ((start.after before).now + (start.after before).timeout).seconds < Duration.momentSeconds →
    (start.after (before ++ history)).now =
      ((start.after before).now + (start.after before).timeout).firstTick
  /-- If the clock cannot count so far, it is answered after thirty years. -/
  beyond : start.Prompt (start.callAfter before) (before ++ history) →
    Duration.momentSeconds ≤ ((start.after before).now + (start.after before).timeout).seconds →
    (start.after (before ++ history)).now =
      ((start.after before).now + .ofSeconds (86400 * 365 * 30)).firstTick
  /-- A task that had no slot before never gets one, and its body never starts. -/
  unadmitted : ∀ entry ∈ (start.after before).backlog.batch scope,
    (∀ earlier, earlier <+: before ++ history → ∀ job ∈ (start.after earlier).jobs,
      job.purpose.task? ≠ some entry.task) →
    ∀ later, entry.task ∉ start.startedTasks (before ++ history ++ later) ∧
      ∀ job ∈ (start.after (before ++ history ++ later)).jobs,
        job.purpose.task? ≠ some entry.task
  /-- What is left behind at any later time. -/
  behind : ∀ later, (start.after (before ++ history ++ later)).IsOver (start.callAfter before) scope
    ((start.after before).backlog.batch scope)

section

variable {options : Options} (opened : openNoted? options = .ok start)

include opened

/-- What has become of the batch at any time after its answer. -/
theorem isOver_after {reply : Reply}
    (answered : (start.after before).Answered (.exec scope) reply history)
    (later : List (Event Body)) :
    (start.after (before ++ history ++ later)).IsOver (start.callAfter before) scope
      ((start.after before).backlog.batch scope) := by
  have kept := (kept_of_opened opened).1
  have keptNow := kept.after (before ++ history ++ later)
  have absent : (start.after (before ++ history ++ later)).calls.get? (start.callAfter before) =
      none := by
    rw [List.append_assoc, after_append]
    exact (kept.after before).absent_of_answered answered later
  have bound : ∀ entry ∈ (start.after before).backlog.batch scope,
      ∀ job ∈ (start.after (before ++ history ++ later)).jobs,
        job.purpose.task? = some entry.task →
        job.purpose = .member (start.callAfter before) entry.task scope := by
    intro entry listed job member mine
    obtain ⟨rest, rfl⟩ := answered.begins
    have takes : start.Takes (before ++ .begin (.exec scope) :: rest ++ later)
        (start.callAfter before) scope entry :=
      ⟨before, rest ++ later, by simp, rfl, listed⟩
    exact congrArg Assignment.purpose (eq_of_job opened takes member mine)
  exact {
    gone := by
      refine ⟨absent, fun parked => ?_, keptNow.inOrder.slots.counted⟩
      obtain ⟨call, found, -⟩ := (keptNow.inOrder.parked _ (by simp)).mp parked
      rw [absent] at found
      cases found
    staffed := keptNow.inOrder.staffed
    single := fun entry listed job member other also mine same =>
      eq_of_task opened _ member also mine same
    keeps := fun entry listed job member mine event goesOn =>
      keptNow.continues_of_going member (bound entry listed job member mine) goesOn
    frees := fun entry listed job member mine event ceases =>
      keptNow.inOrder.frees member (bound entry listed job member mine) ceases
    empties := fun quiet ended entry listed job member mine => by
      simp only [isQuiet, Bool.and_eq_true, Bool.not_eq_true', List.any_eq_false] at quiet
      refine quiet.2 job member ?_
      rw [canTurn, overtaken?, bound entry listed job member mine, Bool.or_eq_true]
      exact .inr ended }

/-- If a task has timed out its batch has, as a whole, and has left only bodies behind that end by
themselves or with their scope. -/
theorem timesOut
    (answered : (start.after before).Answered (.exec scope) (.executed (some outcome)) history)
    (late : ∃ task span, outcome.error? task = some (.timeout span)) :
    start.TimesOut before scope history outcome := by
  obtain ⟨task, span, late⟩ := late
  have kept := (kept_of_opened opened).1
  have keptThen := kept.after before
  obtain ⟨entries, earlier, last, batch, rfl, past, rfl⟩ :=
    keptThen.timedOut (fun _ => ne_nil_of_stored opened before) answered late
  have all := Backlog.batch_of_get? batch
  have distinct := keptThen.stocked.distinct_of_get? batch
  have sound := Outcome.sound_failAll distinct (.timeout (start.after before).timeout)
  have requested : (start.after before).concern? (.exec scope) = some (.batch scope
      (start.after before).timeout ((start.after before).now.timer (start.after before).timeout)
      (entries.map Entry.task)) := by
    simp [concern?, batch]
  have punctual := now_eq_firstTick opened requested rfl answered past
  exact {
    covers := all ▸ sound.covers (.of_eq (Outcome.tasks_failAll _ _))
    uniform := by
      intro entry listed
      rw [all] at listed
      exact (Listing.get?_eq_some_iff sound.distinct).mpr
        (List.mem_map_of_mem (List.mem_map_of_mem listed))
    valueless := rfl
    usedUp := congrArg Surroundings.nextTimeout (keptThen.surroundings_begin (.exec scope))
    onTime := fun prompt countable => by
      rw [punctual prompt, Duration.timer_of_countable countable]
    beyond := fun prompt uncountable => by
      rw [punctual prompt, Duration.timer_of_uncountable uncountable]
    unadmitted := fun entry listed unadmitted later => by
      obtain ⟨rest, begins⟩ := answered.begins
      have takes : start.Takes (before ++ (earlier ++ [last])) (start.callAfter before) scope
          entry := ⟨before, rest, by rw [begins], rfl, listed⟩
      have gone := ((isOver_after opened answered []).gone).1
      rw [List.append_nil] at gone
      have never : ∀ more, entry.task ∉
          start.startedTasks (before ++ (earlier ++ [last]) ++ more) := fun more =>
        not_mem_of_givenUp opened takes gone unadmitted
      refine ⟨never later, fun job member => task?_ne_of_never opened _ (fun more => ?_) member⟩
      rw [List.append_assoc]
      exact never (later ++ more)
    behind := isOver_after opened answered }

end

/-- Two tasks are pushed, and the timeout of their batch is set to four and a half milliseconds. -/
def pressing : List (Event Unit) :=
  [.openScope .root, .push ⟨1⟩ "first" (), .push ⟨1⟩ "second" (), .tick (.ofMillis 3),
    .setTimeout ⟨4500000⟩]

/-- The first task takes too long, and the second still waits for its slot. -/
def overrun : List (Event Unit) :=
  .begin (.exec ⟨1⟩) :: [.start ⟨0⟩, .tick (.ofMillis 8)] ++ [.poll ⟨0⟩]

/-- The batch is answered after eight milliseconds. The first body keeps its slot until it ends. -/
theorem timesOut_overrun : ∃ (start : Yard Unit) (outcome : Outcome),
    openNoted? (.ofCapacity 1) = .ok start ∧
    outcome.errors = [(⟨0, "first"⟩, some (.timeout ⟨4500000⟩)),
      (⟨1, "second"⟩, some (.timeout ⟨4500000⟩))] ∧
    start.Prompt (start.callAfter pressing) (pressing ++ overrun) ∧
    (start.after (pressing ++ overrun)).now = .ofMillis 8 ∧
    (start.after (pressing ++ overrun)).slots.running = 1 ∧
    (start.after (pressing ++ overrun ++ [.finish ⟨0⟩ (.returned .unit)])).slots.running = 0 ∧
    start.TimesOut pressing ⟨1⟩ overrun outcome := by
  have run : ∃ (start : Yard Unit) (outcome : Outcome), openNoted? (.ofCapacity 1) = .ok start ∧
      outcome.errors = [(⟨0, "first"⟩, some (.timeout ⟨4500000⟩)),
        (⟨1, "second"⟩, some (.timeout ⟨4500000⟩))] ∧
      start.Prompt (start.callAfter pressing) (pressing ++ overrun) ∧
      (start.after (pressing ++ overrun)).now = .ofMillis 8 ∧
      (start.after (pressing ++ overrun)).slots.running = 1 ∧
      (start.after (pressing ++ overrun ++ [.finish ⟨0⟩ (.returned .unit)])).slots.running = 0 ∧
      (start.after pressing).Answered (.exec ⟨1⟩) (.executed (some outcome)) overrun ∧
      ∃ task span, outcome.error? task = some (.timeout span) :=
    ⟨_, _, rfl, rfl, by decide, rfl, rfl, rfl, .inPoll rfl, ⟨0, "first"⟩, _, rfl⟩
  obtain ⟨start, outcome, opened, errors, prompt, now, before, behind, answered, late⟩ := run
  exact ⟨start, outcome, opened, errors, prompt, now, before, behind,
    timesOut opened answered late⟩

/-- A timeout that the clock cannot count to. -/
def endless : Duration := .ofParts 18446744073709551615 0

/-- A body runs for thirty years. -/
def lifelong : List (Event Unit) :=
  .begin (.exec ⟨1⟩) :: [.start ⟨0⟩, .tick (.ofSeconds (86400 * 365 * 30))] ++ [.poll ⟨0⟩]

/-- A batch may be answered that it has timed out before its timeout is over. -/
theorem exists_early_timeout : ∃ (start : Yard Unit) (before : List (Event Unit))
    (outcome : Outcome), openNoted? (.ofCapacity 1) = .ok start ∧
    (start.after before).timeout = endless ∧
    (start.after before).Answered (.exec ⟨1⟩) (.executed (some outcome)) lifelong ∧
    start.Prompt (start.callAfter before) (before ++ lifelong) ∧
    outcome.error? ⟨0, "task"⟩ = some (.timeout endless) ∧
    (start.after (before ++ lifelong)).now < (start.after before).now + endless :=
  ⟨_, [.openScope .root, .push ⟨1⟩ "task" (), .setTimeout endless], _, rfl, rfl, .inPoll rfl,
    by decide, rfl, by decide⟩

end Yard

end Taskyard

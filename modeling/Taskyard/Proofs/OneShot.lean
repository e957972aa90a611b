/-
This file says what a timeout that is set is good for: the batch that begins
next, to its end, and no other. Whoever begins to run a batch uses the timeout
up, even if there is no batch or its scope has ended; nothing that becomes of
the batch afterwards touches the timeout that is set by then. A timeout that is
set while a batch is under way waits for the next one, and until that begins
nobody notices.
-/

import Taskyard.Proofs.Timeouts

namespace Taskyard

variable {Body : Type}

/-- The timeout that was set last since somebody last began to run a batch. -/
def lastSet (history : List (Event Body)) : Option Duration :=
  (history.reverse.findSome? Event.sets?).join

theorem lastSet_concat (history : List (Event Body)) (event : Event Body) :
    lastSet (history ++ [event]) = event.sets?.getD (lastSet history) := by
  simp only [lastSet, List.reverse_append, List.reverse_singleton, List.singleton_append,
    List.findSome?_cons]
  cases event.sets? <;> rfl

/-- What does not set a timeout leaves the one that is set. -/
theorem lastSet_append {later : List (Event Body)} (earlier : List (Event Body))
    (silent : ∀ event ∈ later, event.sets? = none) :
    lastSet (earlier ++ later) = lastSet earlier := by
  have nothing : later.reverse.findSome? Event.sets? = none :=
    List.findSome?_eq_none_iff.mpr fun event member => silent event (List.mem_reverse.mp member)
  rw [lastSet, List.reverse_append, List.findSome?_append, nothing, Option.none_or, lastSet]

namespace Yard

variable {yard start : Yard Body} {id : CallId} {before history : List (Event Body)}
  {scope : ScopeId}

/-! ### The timeout that is set -/

/-- The timeout of the batch that begins after a history. -/
def allowance (start : Yard Body) (history : List (Event Body)) : Duration :=
  (lastSet history).getD start.options.taskTimeout

theorem nextTimeout_of_opened {options : Options} (opened : openNoted? options = .ok start)
    (history : List (Event Body)) : (start.after history).nextTimeout = lastSet history := by
  induction history using List.reverseRecOn with
  | nil =>
    obtain ⟨slots, -, rfl⟩ := openNoted?_eq opened
    rfl
  | append_singleton earlier event inductionHypothesis =>
    rw [after_concat, ((kept_of_opened opened).1.after earlier).nextTimeout_step event,
      inductionHypothesis, lastSet_concat]

/-- The timeout that is shown is the one that the next batch gets. -/
theorem timeout_of_opened {options : Options} (opened : openNoted? options = .ok start)
    (history : List (Event Body)) : (start.after history).timeout = start.allowance history := by
  rw [timeout, nextTimeout_of_opened opened, (kept_of_opened opened).1.options_after, allowance]

/-! ### A timeout that is set for later -/

/-- A yard with another timeout set for its next batch. -/
def retimed (yard : Yard Body) (next : Option Duration) : Yard Body :=
  { yard with nextTimeout := next }

section

variable (yard) (next : Option Duration)

theorem query_retimed (scope : ScopeId) : (yard.retimed next).query scope =
    ((yard.query scope).1, (yard.query scope).2.retimed next) := by
  have same : (yard.retimed next).ended? scope = yard.ended? scope := rfl
  cases ended : yard.ended? scope with
  | none => rw [query_of_none ended, query_of_none (same.trans ended)]
  | some reason =>
    rw [query_of_some ended, query_of_some (same.trans ended)]
    rfl

theorem pollSubmit_retimed (id : CallId) (body : Body) (queued : Bool) :
    (yard.retimed next).pollSubmit id body queued =
      ((yard.pollSubmit id body queued).1, (yard.pollSubmit id body queued).2.retimed next) := by
  have same : (yard.retimed next).slots = yard.slots := rfl
  unfold pollSubmit
  rw [same]
  rcases yard.slots.turn id queued with ⟨turn, slots⟩
  cases turn <;> rfl

theorem pollSolo_retimed (id : CallId) (scope : ScopeId) (reply : Option Output) :
    (yard.retimed next).pollSolo id scope reply =
      ((yard.pollSolo id scope reply).1, (yard.pollSolo id scope reply).2.retimed next) := by
  unfold pollSolo
  rw [query_retimed]
  cases reply with
  | some output => rfl
  | none =>
    rcases yard.query scope with ⟨reason, later⟩
    cases reason <;> rfl

theorem pollSoloQueued_retimed (id : CallId) (scope : ScopeId) (body : Body) (queued : Bool) :
    (yard.retimed next).pollSoloQueued id scope body queued =
      ((yard.pollSoloQueued id scope body queued).1,
        (yard.pollSoloQueued id scope body queued).2.retimed next) := by
  have same : (yard.retimed next).slots = yard.slots := rfl
  unfold pollSoloQueued
  rw [same]
  rcases yard.slots.turn id queued with ⟨turn, slots⟩
  cases turn with
  | admitted =>
    exact pollSolo_retimed (enlist { yard with slots := slots } (.solo id) body) next id scope none
  | refused error => rfl
  | queued =>
    have asked := query_retimed { yard with slots := slots } next scope
    simp only [retimed] at asked ⊢
    rw [asked]
    rcases query { yard with slots := slots } scope with ⟨reason, later⟩
    cases reason <;> rfl

theorem dispatch_retimed (id : CallId) (batch : Batch Body) (queued : Bool)
    (entries : List (Entry Body)) (outcome : Outcome) :
    (yard.retimed next).dispatch id batch queued entries outcome =
      ((yard.dispatch id batch queued entries outcome).1,
        (yard.dispatch id batch queued entries outcome).2.retimed next) := by
  induction entries generalizing queued yard outcome with
  | nil => rfl
  | cons entry rest inductionHypothesis =>
    have same : (yard.retimed next).slots = yard.slots := rfl
    unfold dispatch
    rw [same]
    rcases yard.slots.turn id queued with ⟨turn, slots⟩
    cases turn with
    | admitted =>
      exact inductionHypothesis
        (enlist { yard with slots := slots } (.member id entry.task batch.scope) entry.body) false
        outcome
    | refused error =>
      exact inductionHypothesis
        (note { yard with slots := slots } (.notSubmitted batch.scope entry.task error)) false
        (outcome.record entry.task (.error (.submit error)))
    | queued => rfl

theorem collect_retimed (scope : ScopeId) (outputs : List (TaskId × Output)) (outcome : Outcome) :
    collect scope outputs (yard.retimed next) outcome =
      ((collect scope outputs yard outcome).1,
        (collect scope outputs yard outcome).2.retimed next) := by
  induction outputs generalizing yard outcome with
  | nil => rfl
  | cons entry rest inductionHypothesis =>
    obtain ⟨task, output⟩ := entry
    cases output with
    | ok value => exact inductionHypothesis yard (outcome.record task (.ok value))
    | error error =>
      exact inductionHypothesis (yard.note (.taskFailed scope task error))
        (outcome.record task (.error error))

theorem awaitBatch_retimed (id : CallId) (batch : Batch Body) :
    (yard.retimed next).awaitBatch id batch =
      ((yard.awaitBatch id batch).1, (yard.awaitBatch id batch).2.retimed next) := by
  have same : (yard.retimed next).now = yard.now := rfl
  unfold awaitBatch
  rw [same, query_retimed]
  split
  · rfl
  · rcases yard.query batch.scope with ⟨reason, later⟩
    cases reason <;> rfl

theorem pollBatch_retimed (id : CallId) (batch : Batch Body) :
    (yard.retimed next).pollBatch id batch =
      ((yard.pollBatch id batch).1, (yard.pollBatch id batch).2.retimed next) := by
  unfold pollBatch
  rw [dispatch_retimed]
  rcases yard.dispatch id batch batch.queued batch.unsubmitted batch.outcome with ⟨held, later⟩
  simp only
  split
  · rw [collect_retimed]
    rcases collect held.scope held.inbox later held.outcome with ⟨outcome, looked⟩
    have same : (looked.retimed next).isUnmanned id = looked.isUnmanned id := rfl
    simp only [same]
    split
    · rfl
    · exact awaitBatch_retimed looked next id _
  · exact awaitBatch_retimed later next id held

theorem pollDrain_retimed (id : CallId) (timeout : Duration) (deadline : Option Duration) :
    (yard.retimed next).pollDrain id timeout deadline =
      ((yard.pollDrain id timeout deadline).1,
        (yard.pollDrain id timeout deadline).2.retimed next) := by
  have jobs : (yard.retimed next).jobs = yard.jobs := rfl
  have passed : (yard.retimed next).hasPassed deadline = yard.hasPassed deadline := rfl
  unfold pollDrain
  rw [jobs, passed]
  repeat' split
  all_goals rfl

theorem pollWatch_retimed (id : CallId) (scope : ScopeId) :
    (yard.retimed next).pollWatch id scope =
      ((yard.pollWatch id scope).1, (yard.pollWatch id scope).2.retimed next) := by
  unfold pollWatch
  rw [query_retimed]
  rcases yard.query scope with ⟨reason, later⟩
  cases reason <;> rfl

/-- Polls take no notice of the timeout that is set for the next batch. -/
theorem poll_retimed (id : CallId) : (yard.retimed next).poll id =
    ((yard.poll id).1, (yard.poll id).2.retimed next) := by
  have same : (yard.retimed next).calls = yard.calls := rfl
  unfold poll
  rw [same]
  cases yard.calls.get? id with
  | none => rfl
  | some call =>
    cases call with
    | submit body => exact yard.pollSubmit_retimed next id body true
    | soloQueued scope body => exact yard.pollSoloQueued_retimed next id scope body true
    | solo scope reply => exact yard.pollSolo_retimed next id scope reply
    | batch held => exact yard.pollBatch_retimed next id held
    | drain timeout deadline => exact yard.pollDrain_retimed next id timeout deadline
    | watch scope => exact yard.pollWatch_retimed next id scope

theorem reportPanic_retimed (uncaught : Option Payload) :
    (yard.retimed next).reportPanic uncaught = (yard.reportPanic uncaught).retimed next := by
  cases uncaught with
  | none => rfl
  | some payload =>
    have same : (yard.retimed next).options = yard.options := rfl
    simp only [reportPanic, same]
    split <;> rfl

theorem deliver_retimed (purpose : Purpose) (ending : Ending) :
    (yard.retimed next).deliver purpose ending = (yard.deliver purpose ending).retimed next := by
  unfold deliver
  rw [reportPanic_retimed]
  cases purpose <;> rfl

theorem finishJob_retimed (job : JobId) (ending : Ending) :
    (yard.retimed next).finishJob job ending = (yard.finishJob job ending).retimed next := by
  have same : (yard.retimed next).job? job = yard.job? job := rfl
  unfold finishJob
  rw [same]
  cases yard.job? job with
  | none => rfl
  | some held =>
    simp only
    rw [deliver_retimed]
    split <;> rfl

theorem abandonJob_retimed (job : JobId) :
    (yard.retimed next).abandonJob job = (yard.abandonJob job).retimed next := by
  have same : (yard.retimed next).job? job = yard.job? job := rfl
  unfold abandonJob
  rw [same]
  cases yard.job? job with
  | none => rfl
  | some held =>
    simp only
    cases held.purpose with
    | errand | solo => rfl
    | member call task scope =>
      simp only
      rw [query_retimed]
      rcases yard.query scope with ⟨reason, later⟩
      cases reason <;> rfl

theorem push_retimed (scope : ScopeId) (label : String) (body : Body) :
    (yard.retimed next).push scope label body =
      ((yard.push scope label body).1, (yard.push scope label body).2.retimed next) := by
  unfold push
  rw [query_retimed]
  rcases yard.query scope with ⟨reason, later⟩
  cases reason with
  | some reason => rfl
  | none =>
    have same : (later.retimed next).slots = later.slots := rfl
    simp only [same]
    split <;> rfl

/-- Operations that run no batch take no notice of it when they begin. -/
theorem begin_retimed {request : Request Body} (silent : (Event.begin request).sets? = none) :
    ((yard.retimed next).begin request).2 =
      ((yard.begin request).2.1, (yard.begin request).2.2.retimed next) := by
  cases request with
  | submit body =>
    exact pollSubmit_retimed { yard with callCount := yard.callCount + 1 } next _ body false
  | submitTask scope body =>
    have same : (yard.retimed next).ended? scope = yard.ended? scope := rfl
    cases ended : yard.ended? scope with
    | some reason =>
      rw [begin_submitTask_of_ended ended, begin_submitTask_of_ended (same.trans ended)]
      rfl
    | none =>
      rw [begin_submitTask_of_going ended, begin_submitTask_of_going (same.trans ended)]
      exact (yard.prepared (.submitTask scope body)).pollSoloQueued_retimed next _ scope body false
  | exec scope => cases silent
  | drain timeout => exact (yard.prepared (.drain timeout)).pollDrain_retimed next _ timeout _
  | watch scope =>
    exact pollWatch_retimed { yard with callCount := yard.callCount + 1 } next _ scope

end

/-- As long as no batch begins, yards that differ in the timeout that is set for the next one do not
differ in anything else. -/
theorem exists_step_retimed (yard : Yard Body) (next : Option Duration) {event : Event Body}
    (waits : event.sets? ≠ some none) :
    ∃ last, (yard.retimed next).step event = (yard.step event).retimed last := by
  cases event with
  | tick moment =>
    refine ⟨next, ?_⟩
    have same : (yard.retimed next).now = yard.now := rfl
    simp only [Yard.step, advanceTo, same]
    split <;> rfl
  | openScope descent => exact ⟨next, by cases descent <;> rfl⟩
  | query scope => exact ⟨next, congrArg Prod.snd (yard.query_retimed next scope)⟩
  | push scope label body =>
    exact ⟨next, congrArg Prod.snd (yard.push_retimed next scope label body)⟩
  | setTimeout timeout => exact ⟨some timeout, rfl⟩
  | begin request =>
    have silent : (Event.begin request).sets? = none := by
      cases request with
      | exec scope => exact absurd rfl waits
      | _ => rfl
    exact ⟨next, congrArg Prod.snd (yard.begin_retimed next silent)⟩
  | poll id => exact ⟨next, congrArg Prod.snd (yard.poll_retimed next id)⟩
  | finish job ending => exact ⟨next, yard.finishJob_retimed next job ending⟩
  | abandon job => exact ⟨next, yard.abandonJob_retimed next job⟩
  | cancel | discard | release | drop | start => exact ⟨next, rfl⟩

theorem exists_after_retimed (yard : Yard Body) (next : Option Duration)
    (waits : ∀ event ∈ history, event.sets? ≠ some none) :
    ∃ last, (yard.retimed next).after history = (yard.after history).retimed last := by
  induction history using List.reverseRecOn with
  | nil => exact ⟨next, rfl⟩
  | append_singleton earlier event inductionHypothesis =>
    obtain ⟨front, final⟩ := List.forall_mem_append.mp waits
    obtain ⟨between, same⟩ := inductionHypothesis front
    rw [after_concat, after_concat, same]
    exact exists_step_retimed _ between (final event List.mem_cons_self)

/-! ### One batch -/

/-- What is promised to whoever runs the batch of a scope, and to those who set timeouts. -/
structure OneShot (start : Yard Body) (before : List (Event Body)) (scope : ScopeId) : Prop where
  /-- The timeout that is shown is the one set last since a batch last began, or the default. -/
  shown : (start.after before).timeout = start.allowance before
  /-- The batch that begins has it for as long as it is under way, whatever happens. -/
  begun : ∀ later batch,
    (start.after (before ++ .begin (.exec scope) :: later)).calls.get? (start.callAfter before) =
      some (.batch batch) →
    batch.timeout = start.allowance before ∧
      batch.deadline = (start.after before).now.timer (start.allowance before)
  /-- When that is over the batch is answered as soon as it is polled. -/
  late : ∀ later batch,
    (start.after (before ++ .begin (.exec scope) :: later)).calls.get? (start.callAfter before) =
      some (.batch batch) →
    (start.after before).now.timer (start.allowance before) ≤
      (start.after (before ++ .begin (.exec scope) :: later)).now →
    ((start.after (before ++ .begin (.exec scope) :: later)).poll
      (start.callAfter before)).1.isSome
  /-- Whoever is told that a task has timed out is told of this timeout, and not before it was
  over. -/
  told : ∀ history outcome task span,
    (start.after before).Answered (.exec scope) (.executed (some outcome)) history →
    outcome.error? task = some (.timeout span) →
    span = start.allowance before ∧
      (start.after before).now.timer span ≤ (start.after (before ++ history)).now
  /-- Whether there is a batch or not, and however it ends, the timeout is used up. -/
  usedUp : ∀ later, (∀ event ∈ later, event.sets? = none) →
    (start.after (before ++ .begin (.exec scope) :: later)).timeout = start.options.taskTimeout
  /-- A timeout that is set while the batch is under way is there for the next one, and does not get
  lost when the batch ends. -/
  kept : ∀ between timeout later, (∀ event ∈ later, event.sets? = none) →
    (start.after
      (before ++ .begin (.exec scope) :: between ++ .setTimeout timeout :: later)).timeout = timeout
  /-- Until another batch begins nothing else is changed by it, and every poll is answered alike. -/
  unmoved : ∀ between timeout later, (∀ event ∈ later, event.sets? ≠ some none) →
    ∃ last, start.after
        (before ++ .begin (.exec scope) :: between ++ .setTimeout timeout :: later) =
      (start.after (before ++ .begin (.exec scope) :: between ++ later)).retimed last ∧
    ∀ id, ((start.after
        (before ++ .begin (.exec scope) :: between ++ .setTimeout timeout :: later)).poll id).1 =
      ((start.after (before ++ .begin (.exec scope) :: between ++ later)).poll id).1

/-- The timeout of a batch that is under way is the one that it began with. -/
theorem Kept.timeout_begun (kept : yard.Kept) {later : List (Event Body)} {batch : Batch Body}
    (found : ((yard.step (.begin (.exec scope))).after later).calls.get? ⟨yard.callCount⟩ =
      some (.batch batch)) :
    batch.timeout = yard.timeout ∧ batch.deadline = yard.now.timer yard.timeout := by
  obtain ⟨entries, -, same⟩ := Option.map_eq_some_iff.mp (kept.begun_after found)
  obtain ⟨-, timeout, deadline, -⟩ := Concern.batch.inj same
  exact ⟨timeout.symm, deadline.symm⟩

section

variable {options : Options} (opened : openNoted? options = .ok start)

include opened

/-- What has been set is there as long as nothing else is set and no batch begins. -/
theorem timeout_of_silent {later : List (Event Body)} (earlier : List (Event Body))
    (event : Event Body) (silent : ∀ event ∈ later, event.sets? = none) :
    (start.after (earlier ++ event :: later)).timeout = start.allowance (earlier ++ [event]) := by
  rw [List.append_cons, timeout_of_opened opened, allowance, lastSet_append _ silent, allowance]

/-- A timeout that is set is good for one batch, which is the next. -/
theorem oneShot (before : List (Event Body)) (scope : ScopeId) : start.OneShot before scope := by
  have kept := (kept_of_opened opened).1.after before
  have shown := timeout_of_opened opened before
  exact {
    shown := shown
    begun := fun later batch found => by
      rw [after_append, after_cons] at found
      exact shown ▸ kept.timeout_begun found
    late := fun later batch found past => by
      rw [after_append, after_cons] at found past ⊢
      obtain ⟨-, deadline⟩ := kept.timeout_begun found
      rw [shown] at deadline
      exact ((kept.step (.begin (.exec scope))).after later).isSome_poll_of_past found rfl
        (deadline ▸ past)
    told := fun history outcome task span answered late => by
      obtain ⟨entries, earlier, last, -, rfl, past, same⟩ :=
        kept.timedOut (fun _ => ne_nil_of_stored opened before) answered late
      cases Outcome.error?_failAll (same ▸ late)
      rw [after_append, answered.now kept]
      exact ⟨shown, past⟩
    usedUp := fun later silent => by
      rw [timeout_of_silent opened before _ silent, allowance, lastSet_concat]
      rfl
    kept := fun between timeout later silent => by
      rw [timeout_of_silent opened _ _ silent, allowance, lastSet_concat]
      rfl
    unmoved := fun between timeout later waits => by
      have set : start.after (before ++ .begin (.exec scope) :: between ++ [.setTimeout timeout]) =
          (start.after (before ++ .begin (.exec scope) :: between)).retimed (some timeout) :=
        after_concat _ _ _
      obtain ⟨last, same⟩ := exists_after_retimed
        (start.after (before ++ .begin (.exec scope) :: between)) (some timeout) waits
      rw [List.append_cons, after_append start _ later, set, same, after_append start _ later]
      exact ⟨last, rfl, fun id => by rw [poll_retimed]⟩ }

end

/-- A task is pushed, and the timeout of its batch is set. -/
def shortened : List (Event Unit) :=
  [.openScope .root, .push ⟨1⟩ "task" (), .setTimeout (.ofMillis 5)]

/-- Another timeout is set while the body of the batch takes too long. -/
def prolonged : List (Event Unit) :=
  .begin (.exec ⟨1⟩) :: [.start ⟨0⟩, .setTimeout (.ofMillis 7), .tick (.ofMillis 5)] ++ [.poll ⟨0⟩]

/-- The batch times out as it began. The other timeout is there when it ends, until somebody wants
to run a batch that is not there. -/
theorem oneShot_prolonged : ∃ (start : Yard Unit) (outcome : Outcome),
    openNoted? (.ofCapacity 1) = .ok start ∧
    (start.after shortened).Answered (.exec ⟨1⟩) (.executed (some outcome)) prolonged ∧
    outcome.error? ⟨0, "task"⟩ = some (.timeout (.ofMillis 5)) ∧
    start.allowance (shortened ++ prolonged) = .ofMillis 7 ∧
    start.allowance (shortened ++ prolonged ++ [.begin (.exec ⟨1⟩)]) = start.options.taskTimeout ∧
    start.OneShot shortened ⟨1⟩ ∧ start.OneShot (shortened ++ prolonged) ⟨1⟩ := by
  have run : ∃ (start : Yard Unit) (outcome : Outcome), openNoted? (.ofCapacity 1) = .ok start ∧
      (start.after shortened).Answered (.exec ⟨1⟩) (.executed (some outcome)) prolonged ∧
      outcome.error? ⟨0, "task"⟩ = some (.timeout (.ofMillis 5)) ∧
      start.allowance (shortened ++ prolonged) = .ofMillis 7 ∧
      start.allowance (shortened ++ prolonged ++ [.begin (.exec ⟨1⟩)]) =
        start.options.taskTimeout :=
    ⟨_, _, rfl, .inPoll rfl, rfl, rfl, rfl⟩
  obtain ⟨start, outcome, opened, answered, late, next, default⟩ := run
  exact ⟨start, outcome, opened, answered, late, next, default, oneShot opened shortened ⟨1⟩,
    oneShot opened (shortened ++ prolonged) ⟨1⟩⟩

end Yard

end Taskyard

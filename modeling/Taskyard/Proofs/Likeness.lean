/-
This file lets two yards that look alike have a history each. Whatever happens to
both of them, they go on to look alike; even the endings of a body may differ.
For this the next batches must get the same timeout, a masked call must not be
polled, and no body of it may be dropped. As long as two yards look alike, the
same calls are ready in them.
-/

import Taskyard.Proofs.Veils

namespace Taskyard

variable {Body : Type}

namespace Veil

variable {veil : Veil} {yard other : Yard Body} {id : CallId}

namespace Alike

variable (alike : veil.Alike yard other)

include alike

/-! ### Any event -/

theorem stored (scope : ScopeId) (label : String) (body : Body) :
    veil.Alike (yard.store scope label body).2 (other.store scope label body).2 := by
  have seen : ∀ backlog : Backlog Body, (backlog.batch scope).map veil.entry =
      ((backlog.batches.get? scope).map (List.map veil.entry)).getD [] := fun backlog =>
    (Option.getD_map (List.map veil.entry) [] _).symm
  have waits : (yard.backlog.batch scope).map veil.entry =
      (other.backlog.batch scope).map veil.entry := by
    rw [seen, alike.get?_batches, ← seen]
  have item : veil.entry ⟨⟨yard.taskCount, label⟩, body⟩ =
      veil.entry ⟨⟨other.taskCount, label⟩, body⟩ := by
    simp only [entry, veil.task_congr alike.taskCount]
  have pushed : veil.Alike
      { yard with
        backlog := yard.backlog.push scope ⟨⟨yard.taskCount, label⟩, body⟩
        taskCount := yard.taskCount + 1 }
      { other with
        backlog := other.backlog.push scope ⟨⟨other.taskCount, label⟩, body⟩
        taskCount := other.taskCount + 1 } :=
    { alike with
      backlog := by
        simp only [Backlog.push, Listing.seen_put, alike.backlog, List.map_append, waits,
          List.map_cons, item, List.map_nil]
      taskCount := veil.count_congr alike.taskCount }
  exact pushed.unseen rfl rfl

theorem push (scope : ScopeId) (label : String) (body : Body) :
    veil.Alike (yard.push scope label body).2 (other.push scope label body).2 := by
  have told := alike.ended? scope
  cases ended : other.ended? scope with
  | some reason =>
    rw [Yard.push_of_ended ended, Yard.push_of_ended (told.trans ended)]
    exact alike.settled scope reason
  | none =>
    by_cases closed : other.slots.closed = true
    · rw [Yard.push_of_closed ended closed,
        Yard.push_of_closed (told.trans ended) (alike.slots ▸ closed)]
      exact alike
    · rw [Yard.push_of_open ended closed,
        Yard.push_of_open (told.trans ended) (alike.slots ▸ closed)]
      exact alike.stored scope label body

theorem release : veil.Alike yard.release other.release := by
  have cleared : veil.Alike { yard.closeSlots with backlog := .empty }
      { other.closeSlots with backlog := .empty } :=
    { alike.closeSlots with backlog := rfl }
  exact cleared.unseen rfl rfl

theorem reported (uncaught : Option Payload) :
    veil.Alike (yard.reportPanic uncaught) other := by
  cases uncaught with
  | none => exact alike
  | some payload =>
    have noted : veil.Alike (yard.note (.bodyPanicked payload.text)) other := alike.left rfl
    simp only [Yard.reportPanic]
    split
    · exact { noted with }
    · exact noted

theorem deliver {behalf purpose : Purpose} (same : veil.purpose behalf = veil.purpose purpose)
    (ending instead : Ending) :
    veil.Alike (yard.deliver behalf ending) (other.deliver purpose instead) := by
  have told : veil.Alike (yard.reportPanic (ending.uncaught? behalf))
      (other.reportPanic (instead.uncaught? purpose)) :=
    ((alike.reported _).symm.reported _).symm
  have patron := congrArg Purpose.patron? same
  rw [patron?_purpose, patron?_purpose] at patron
  cases works : behalf.patron? with
  | none =>
    rw [works] at patron
    cases behalf <;> cases works
    cases purpose <;> cases patron
    exact told
  | some id =>
    have heard := told.amend
      (hear_congr same works (ending.outputFor behalf) (instead.outputFor purpose))
    rw [works] at patron
    cases behalf <;> cases works <;> cases purpose <;> cases patron <;> exact heard

theorem finishJob (id : JobId) (ending instead : Ending) :
    veil.Alike (yard.finishJob id ending) (other.finishJob id instead) := by
  unfold Yard.finishJob
  rcases both_or_none (alike.job? id) with ⟨absent, missing⟩ | ⟨held, kept, found, there, same⟩
  · rw [absent, missing]
    exact alike
  · rw [found, there]
    simp only [job, Job.mk.injEq] at same
    obtain ⟨-, purpose, -, started⟩ := same
    simp only [started]
    split
    · exact (alike.deliver purpose ending instead).discharge id
    · exact alike

/-- A body of a batch is dropped, which may not be that of the masked call. -/
theorem abandonJob (id : JobId) (spared : ∀ held, yard.job? id = some held →
      ∀ call, held.purpose.patron? = some call → veil.masked ≠ some call) :
    veil.Alike (yard.abandonJob id) (other.abandonJob id) := by
  unfold Yard.abandonJob
  rcases both_or_none (alike.job? id) with ⟨absent, missing⟩ | ⟨held, kept, found, there, same⟩
  · rw [absent, missing]
    exact alike
  · rw [found, there]
    have purposes : veil.purpose held.purpose = veil.purpose kept.purpose :=
      congrArg Job.purpose same
    have unmasked := spared held found
    cases works : held.purpose.patron? with
    | none =>
      have also := congrArg Purpose.patron? purposes
      rw [patron?_purpose, patron?_purpose, works] at also
      cases first : held.purpose <;> cases second : kept.purpose <;>
        simp only [first, second, Purpose.patron?, reduceCtorEq] at works also ⊢
      exact alike
    | some call =>
      rcases kind_of_unmasked (unmasked call works) works purposes with
        ⟨first, second⟩ | ⟨task, name, scope, first, second, tasks⟩
      · simp only [first, second]
        exact alike
      · have told := alike.ended? scope
        simp only [first, second]
        cases ended : other.ended? scope with
        | none =>
          rw [Yard.query_of_none ended, Yard.query_of_none (told.trans ended)]
          exact alike
        | some reason =>
          rw [Yard.query_of_some ended, Yard.query_of_some (told.trans ended)]
          rw [first, second] at purposes
          refine ((alike.settled scope reason).amend ?_).discharge id
          exact hear_congr purposes rfl (.error (.scope reason)) (.error (.scope reason))

theorem startJob (id : JobId) : veil.Alike (yard.startJob id) (other.startJob id) :=
  { alike with
    jobs := by
      have started : ∀ jobs : List (Job Body), (jobs.map fun held =>
          if held.id = id then { held with started := true } else held).map veil.job =
            (jobs.map veil.job).map fun held =>
              if held.id = id then { held with started := true } else held := fun jobs => by
        rw [List.map_map, List.map_map]
        refine List.map_congr_left fun held _ => ?_
        simp only [Function.comp_apply]
        split
        · next same => simp [job, same]
        · next apart => simp [job, apart]
      show (yard.startJob id).jobs.map veil.job = (other.startJob id).jobs.map veil.job
      rw [Yard.startJob, started, alike.jobs, ← started]
      rfl }

theorem openScope (descent : Yard.Descent) :
    veil.Alike (yard.openScope descent).2 (other.openScope descent).2 :=
  { alike with
    scopes := by
      unfold Yard.openScope
      rw [alike.scopes] }

theorem advanceTo (moment : Duration) :
    veil.Alike (yard.advanceTo moment) (other.advanceTo moment) := by
  unfold Yard.advanceTo
  rw [alike.now]
  split
  · exact { alike with now := rfl }
  · exact alike

/-- Whatever happens to two yards that look alike, they go on to look alike, and the same calls are
answered. A masked call must not be polled, nor must a body of it be dropped. -/
theorem step (event : Event Body)
    (timed : ∀ scope, event = .begin (.exec scope) → yard.timeout = other.timeout)
    (unpolled : ∀ call, event = .poll call → veil.masked ≠ some call)
    (spared : ∀ id, event = .abandon id → ∀ held, yard.job? id = some held →
      ∀ call, held.purpose.patron? = some call → veil.masked ≠ some call) :
    veil.Alike (yard.step event) (other.step event) := by
  cases event with
  | tick moment => exact alike.advanceTo moment
  | openScope descent => exact alike.openScope descent
  | cancel scope =>
    exact { alike with
      scopes := by
        show yard.scopes.cancel yard.now scope = other.scopes.cancel other.now scope
        rw [alike.scopes, alike.now] }
  | query scope =>
    have told := alike.ended? scope
    cases ended : other.ended? scope with
    | none =>
      rw [Yard.step, Yard.step, Yard.query_of_none ended, Yard.query_of_none (told.trans ended)]
      exact alike
    | some reason =>
      rw [Yard.step, Yard.step, Yard.query_of_some ended, Yard.query_of_some (told.trans ended)]
      exact alike.settled scope reason
  | push scope label body => exact alike.push scope label body
  | discard scope =>
    exact { alike with
      backlog := by
        simp only [Yard.step, Yard.discard, Backlog.discard, Backlog.remove, Listing.seen_remove,
          alike.backlog] }
  | setTimeout timeout => exact { alike with }
  | release => exact alike.release
  | begin request =>
    exact (alike.begin request fun scope same => timed scope (congrArg Event.begin same)).alike
  | poll id => exact (alike.poll (unpolled id rfl)).alike
  | drop id => exact alike.drop id
  | start id => exact alike.startJob id
  | finish id ending => exact alike.finishJob id ending ending
  | abandon id => exact alike.abandonJob id (spared id rfl)

/-! ### What brings calls and jobs further -/

theorem wouldProgress {held kept : Call Body} (same : veil.bare held = veil.bare kept)
    (id : CallId) : yard.wouldProgress id held = other.wouldProgress id kept := by
  have unmanned := alike.isUnmanned id
  have told := alike.ended?
  have idle : yard.jobs.isEmpty = other.jobs.isEmpty := by
    simpa using congrArg List.isEmpty alike.jobs
  cases held with
  | solo scope reply =>
    cases kept with
    | solo under answer =>
      simp only [bare, Call.solo.injEq] at same
      obtain ⟨rfl, replies⟩ := same
      have came : reply.isSome = answer.isSome := by simpa using congrArg Option.isSome replies
      simp only [Yard.wouldProgress, came, told]
    | _ => cases same
  | batch batch =>
    cases kept with
    | batch kept =>
      obtain ⟨scope, deadline, -, left, inbox⟩ := parts_of_batch (Call.batch.inj same)
      have done : batch.unsubmitted.isEmpty = kept.unsubmitted.isEmpty := by
        simpa using congrArg List.isEmpty left
      simp only [Yard.wouldProgress, done, inbox, unmanned, alike.slots, alike.now, deadline, scope,
        told]
    | _ => cases same
  | _ =>
    cases kept <;> cases same
    all_goals simp only [Yard.wouldProgress, Yard.hasPassed, alike.slots, alike.now, told, idle]

/-- The same calls are ready. -/
theorem isReady (unmasked : veil.masked ≠ some id) : yard.isReady id = other.isReady id := by
  unfold Yard.isReady
  rcases both_or_none (alike.get?_calls id) with
    ⟨absent, missing⟩ | ⟨held, kept, found, there, same⟩
  · rw [absent, missing]
  · rw [call_of_unmasked unmasked, call_of_unmasked unmasked] at same
    rw [found, there]
    exact alike.wouldProgress same id

end Alike

end Veil

/-- What an event makes of the timeout that is set for the next batch, if it has to do with it. -/
def Event.sets? : Event Body → Option (Option Duration)
  | .setTimeout timeout => some (some timeout)
  | .begin (.exec _) => some none
  | .begin (.submit _) | .begin (.submitTask _ _) | .begin (.drain _) | .begin (.watch _) | .tick _
  | .openScope _ | .cancel _ | .query _ | .push _ _ _ | .discard _ | .release | .poll _ | .drop _
  | .start _ | .finish _ _ | .abandon _ => none

namespace Yard

variable {yard other : Yard Body}

/-! ### The timeout of the next batch -/

/-- Nothing else touches the timeout that is set for the next batch. -/
theorem Kept.nextTimeout_step (kept : yard.Kept) (event : Event Body) :
    (yard.step event).nextTimeout = event.sets?.getD yard.nextTimeout := by
  have surrounded : ∀ {later : Yard Body}, later.surroundings = yard.surroundings →
      later.nextTimeout = yard.nextTimeout := congrArg Surroundings.nextTimeout
  cases event with
  | tick moment =>
    obtain ⟨now, -, moved⟩ := advanceTo_eq yard moment
    rw [Yard.step, moved]
    rfl
  | push scope label body =>
    obtain ⟨scopes, backlog, taskCount, journal, -, pushed⟩ := push_eq yard scope label body
    rw [Yard.step, pushed]
    rfl
  | begin request =>
    refine (congrArg Surroundings.nextTimeout (kept.surroundings_begin request)).trans ?_
    cases request <;> rfl
  | poll id => exact surrounded (kept.surroundings_poll id)
  | finish id ending => exact surrounded (kept.inOrder.finishJob id ending).surroundings
  | abandon id => exact surrounded (kept.inOrder.abandonJob id).surroundings
  | openScope | cancel | query | discard | setTimeout | release | drop | start => rfl

/-- The timeout of the next batch once an event has happened. -/
def timeoutAfter (yard : Yard Body) : Event Body → Duration
  | .setTimeout timeout => timeout
  | .begin (.exec _) => yard.options.taskTimeout
  | _ => yard.timeout

/-- The options never change. -/
theorem Kept.options_after (kept : yard.Kept) (history : List (Event Body)) :
    (yard.after history).options = yard.options := by
  induction history using List.reverseRecOn with
  | nil => rfl
  | append_singleton earlier event inductionHypothesis =>
    rw [after_concat, ((kept.after earlier).capacity_step event).1, inductionHypothesis]

theorem Kept.timeout_step (kept : yard.Kept) (event : Event Body) :
    (yard.step event).timeout = yard.timeoutAfter event := by
  rw [timeout, kept.nextTimeout_step event, (kept.capacity_step event).1]
  cases event with
  | begin request => cases request <;> rfl
  | _ => rfl

theorem timeoutAfter_congr (timed : yard.timeout = other.timeout)
    (options : yard.options = other.options) (event : Event Body) :
    yard.timeoutAfter event = other.timeoutAfter event := by
  unfold timeoutAfter
  split
  · rfl
  · rw [options]
  · exact timed

/-- Yards that look alike, no call being masked, and whose next batches get the same timeout, stay
so in every history. -/
theorem alike_after {veil : Veil} (unmasked : veil.masked = none) (kept : yard.Kept)
    (keptOther : other.Kept) (alike : veil.Alike yard other) (timed : yard.timeout = other.timeout)
    (history : List (Event Body)) :
    veil.Alike (yard.after history) (other.after history) ∧
      (yard.after history).timeout = (other.after history).timeout := by
  have nowhere : ∀ call, veil.masked ≠ some call := fun call masked => by
    rw [unmasked] at masked
    cases masked
  induction history using List.reverseRecOn with
  | nil => exact ⟨alike, timed⟩
  | append_singleton earlier event inductionHypothesis =>
    obtain ⟨alike, timed⟩ := inductionHypothesis
    rw [after_concat, after_concat]
    refine ⟨alike.step event (fun _ _ => timed) (fun call _ => nowhere call)
      fun _ _ _ _ call _ => nowhere call, ?_⟩
    rw [(kept.after earlier).timeout_step event, (keptOther.after earlier).timeout_step event]
    exact timeoutAfter_congr timed alike.options event

end Yard

end Taskyard

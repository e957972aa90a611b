/-
This file shows what comes of polling a call. A poll opens the part of the books
that belongs to the call, and closes it by keeping the call or by dropping it.
While the tasks of a batch are submitted the slots and the jobs run ahead of
what the calls say of the batch; the books of the batch that is dealt with are
therefore carried along apart.
-/

import Taskyard.Proofs.Order.Dealing

namespace Taskyard

variable {Body : Type}

namespace Yard

variable {id : CallId} {before yard : Yard Body}

/-! ### Polls of one body -/

theorem Dealing.pollSubmit {queued : Bool} (dealing : before.Dealing id yard)
    (waits : id ∈ yard.slots.parked ↔ queued = true) (unstaffed : yard.staff id = [])
    (body : Body) : Polled id .submit before (yard.pollSubmit id body queued) := by
  have heard := Slots.heard_turn dealing.inOrder.slots waits
  unfold Yard.pollSubmit
  rcases told : yard.slots.turn id queued with ⟨turn, slots⟩
  rw [told] at heard
  cases turn with
  | admitted => exact (dealing.enlist heard (by simp [Purpose.patron?]) body).answer trivial
  | refused error => exact (dealing.told heard (by simp)).answer trivial
  | queued =>
    exact (dealing.told heard (by simp)).wait (.submit body)
      (heard.parked.trans (by simp [Call.isParked])) unstaffed (heard.news rfl)

theorem Dealing.pollSolo {scope : ScopeId} {reply : Option Output}
    (dealing : before.Dealing id yard) (outside : id ∉ yard.slots.parked)
    (fits : (Call.solo scope reply : Call Body).Fits id (yard.staff id)) :
    Polled id (.solo scope) before (yard.pollSolo id scope reply) := by
  unfold Yard.pollSolo
  cases reply with
  | some output => exact dealing.answer trivial
  | none =>
    cases ended : yard.ended? scope with
    | some reason =>
      rw [query_of_some ended]
      exact (dealing.settled ended).answer trivial
    | none =>
      rw [query_of_none ended]
      exact dealing.wait (.solo scope none) (by simpa [Call.isParked] using outside) fits
        (by simp [wouldProgress, ended])

theorem Dealing.pollSoloQueued {scope : ScopeId} {queued : Bool} (dealing : before.Dealing id yard)
    (waits : id ∈ yard.slots.parked ↔ queued = true) (unstaffed : yard.staff id = [])
    (body : Body) : Polled id (.solo scope) before (yard.pollSoloQueued id scope body queued) := by
  have heard := Slots.heard_turn dealing.inOrder.slots waits
  unfold Yard.pollSoloQueued
  rcases told : yard.slots.turn id queued with ⟨turn, slots⟩
  rw [told] at heard
  cases turn with
  | admitted =>
    refine (dealing.enlist heard (by simp [Purpose.patron?]) body).pollSolo ?_ ?_
    · exact fun member => by simpa using heard.parked.mp member
    · show _ = _
      rw [staff_enlist_own rfl]
      exact congrArg (· ++ [Purpose.solo id]) unstaffed
  | refused error => exact (dealing.told heard (by simp)).answer trivial
  | queued =>
    have told := dealing.told heard (by simp)
    simp only
    cases ended : ended? { yard with slots := slots } scope with
    | some reason =>
      rw [query_of_some ended]
      exact (told.settled ended).answer trivial
    | none =>
      rw [query_of_none ended]
      exact told.wait (.soloQueued scope body) (heard.parked.trans (by simp [Call.isParked]))
        unstaffed (by simp [wouldProgress, heard.news rfl, ended])

/-! ### Polls of a batch -/

/-- The books are in order but for a batch that is dealt with, and its own books are right. -/
structure Dealt (id : CallId) (before : Yard Body) (batch : Batch Body) (yard : Yard Body) :
    Prop where
  dealing : before.Dealing id yard
  waits : id ∈ yard.slots.parked ↔ batch.queued = true
  fits : batch.Fits id (yard.staff id)

/-- What submitting the tasks of a batch may change of it. -/
theorem dispatch_batch (id : CallId) (batch : Batch Body) (queued : Bool)
    (entries : List (Entry Body)) (yard : Yard Body) (outcome : Outcome) :
    ∃ unsubmitted queued' outcome', (yard.dispatch id batch queued entries outcome).1 =
      { batch with unsubmitted := unsubmitted, queued := queued', outcome := outcome' } := by
  induction entries generalizing queued yard outcome with
  | nil => exact ⟨_, _, _, rfl⟩
  | cons entry rest inductionHypothesis =>
    unfold dispatch
    rcases yard.slots.turn id queued with ⟨turn, slots⟩
    cases turn with
    | admitted => exact inductionHypothesis false _ outcome
    | refused error => exact inductionHypothesis false _ _
    | queued => exact ⟨_, _, _, rfl⟩

/-- What comes of submitting the tasks of a batch. -/
structure Dispatched (id : CallId) (before : Yard Body) (result : Batch Body × Yard Body) :
    Prop where
  dealt : before.Dealt id result.1 result.2
  /-- If a task is left, it waits for a slot and has none yet. -/
  left : result.1.unsubmitted ≠ [] →
    result.1.queued = true ∧ result.2.slots.hasNews id = false

theorem Dealt.dispatch {batch : Batch Body} {entries : List (Entry Body)} {queued : Bool}
    {outcome : Outcome} (dealt : before.Dealt id
      { batch with unsubmitted := entries, queued := queued, outcome := outcome } yard) :
    Dispatched id before (yard.dispatch id batch queued entries outcome) := by
  induction entries generalizing queued yard outcome with
  | nil =>
    have idle : queued = false := by
      cases queued with
      | false => rfl
      | true => exact absurd rfl (dealt.fits.pressing rfl)
    subst idle
    exact ⟨dealt, fun left => absurd rfl left⟩
  | cons entry rest inductionHypothesis =>
    have heard := Slots.heard_turn dealt.dealing.inOrder.slots dealt.waits
    simp only at heard
    unfold Yard.dispatch
    rcases told : yard.slots.turn id queued with ⟨turn, slots⟩
    rw [told] at heard
    have outside : turn ≠ .queued → (id ∈ slots.parked ↔ false = true) := fun done => by
      simpa [done] using heard.parked
    cases turn with
    | admitted =>
      refine inductionHypothesis ⟨dealt.dealing.enlist heard ?_ entry.body, outside (by simp), ?_⟩
      · simp [Purpose.patron?, eq_comm]
      · rw [staff_enlist_own rfl]
        exact dealt.fits.admit rfl
    | refused error =>
      exact inductionHypothesis ⟨(dealt.dealing.told heard (by simp)).noted _,
        outside (by simp), dealt.fits.refuse rfl _⟩
    | queued =>
      exact {
        dealt := ⟨dealt.dealing.told heard (by simp), iff_of_true (heard.parked.mpr rfl) rfl,
          dealt.fits.queue rfl⟩
        left := fun _ => ⟨rfl, heard.news rfl⟩ }

/-- Looking at the outputs that came in changes the outcome, and the journal. -/
theorem collect_eq (scope : ScopeId) (outputs : List (TaskId × Output)) (yard : Yard Body)
    (outcome : Outcome) : ∃ journal,
    collect scope outputs yard outcome =
      (outcome.recordAll outputs, { yard with journal := journal }) := by
  induction outputs generalizing yard outcome with
  | nil => exact ⟨yard.journal, rfl⟩
  | cons entry rest inductionHypothesis =>
    obtain ⟨task, output⟩ := entry
    cases output with
    | ok value => exact inductionHypothesis yard (outcome.record task (.ok value))
    | error error =>
      exact inductionHypothesis (yard.note (.taskFailed scope task error))
        (outcome.record task (.error error))

/-- A batch that failed as a whole is answered. -/
theorem Dealt.fail {batch : Batch Body} (dealt : before.Dealt id batch yard) (error : TaskError) :
    Polled id (Call.batch batch).concern before
      (yard.finish id batch (.failAll batch.tasks error)) :=
  (dealt.dealing.noted _).answer
    ⟨Outcome.sound_failAll dealt.fits.distinct error, .of_eq (Outcome.tasks_failAll _ _)⟩

/-- A batch that is not complete goes on, as long as it has time and its scope has not ended. -/
theorem Dealt.awaitBatch {batch : Batch Body} (dealt : before.Dealt id batch yard)
    (left : batch.unsubmitted ≠ [] → batch.queued = true ∧ yard.slots.hasNews id = false)
    (looked : batch.unsubmitted = [] → batch.inbox = [] ∧ yard.isUnmanned id = false) :
    Polled id (Call.batch batch).concern before (yard.awaitBatch id batch) := by
  unfold Yard.awaitBatch
  by_cases overdue : batch.deadline ≤ yard.now
  · rw [if_pos overdue]
    exact Dealt.fail ⟨dealt.dealing.noted _, dealt.waits, dealt.fits⟩ _
  · rw [if_neg overdue]
    cases ended : yard.ended? batch.scope with
    | some reason =>
      rw [query_of_some ended]
      exact Dealt.fail ⟨(dealt.dealing.settled ended).noted _, dealt.waits, dealt.fits⟩ _
    | none =>
      rw [query_of_none ended]
      refine dealt.dealing.wait (.batch batch) dealt.waits
        ⟨dealt.fits, fun more => (left more).1⟩ ?_
      simp only [wouldProgress, ended, overdue, decide_false, Option.isSome_none, Bool.or_false]
      cases unsubmitted : batch.unsubmitted with
      | nil => simp [looked unsubmitted]
      | cons entry rest => exact (left (by simp [unsubmitted])).2

theorem Dealt.pollBatch {batch : Batch Body} (dealt : before.Dealt id batch yard) :
    Polled id (Call.batch batch).concern before (yard.pollBatch id batch) := by
  have dispatched : Dispatched id before
      (yard.dispatch id batch batch.queued batch.unsubmitted batch.outcome) := Dealt.dispatch dealt
  obtain ⟨_, _, _, same⟩ :=
    dispatch_batch id batch batch.queued batch.unsubmitted yard batch.outcome
  unfold Yard.pollBatch
  rcases result : yard.dispatch id batch batch.queued batch.unsubmitted batch.outcome with
    ⟨held, after⟩
  rw [result] at dispatched same
  obtain ⟨settled, left⟩ := dispatched
  simp only at settled left same ⊢
  have concern : (Call.batch held).concern = (Call.batch batch).concern := by
    rw [same]
    rfl
  rw [← concern]
  by_cases submitted : held.unsubmitted = []
  · rw [if_pos (by simp [submitted])]
    obtain ⟨journal, collected⟩ := collect_eq held.scope held.inbox after held.outcome
    rw [collected]
    have dealing := settled.dealing.journalled journal
    simp only
    split
    · next unmanned =>
      refine (dealing.noted _).answer ?_
      exact ⟨settled.fits.collect.outcome,
        settled.fits.complete (isUnmanned_iff.mp unmanned) submitted⟩
    · next manned =>
      have looked : before.Dealt id
          { held with inbox := [], outcome := held.outcome.recordAll held.inbox }
          { after with journal := journal } := ⟨dealing, settled.waits, settled.fits.collect⟩
      exact looked.awaitBatch (fun more => absurd submitted more)
        fun _ => ⟨rfl, by simpa using manned⟩
  · rw [if_neg (by simpa using submitted)]
    exact settled.awaitBatch left fun none => absurd none submitted

/-! ### Waiting for an end -/

theorem Dealing.pollDrain (dealing : before.Dealing id yard) (outside : id ∉ yard.slots.parked)
    (unstaffed : yard.staff id = []) (timeout : Duration) (deadline : Option Duration) :
    Polled id (.drain timeout deadline) before (yard.pollDrain id timeout deadline) := by
  unfold Yard.pollDrain
  by_cases empty : yard.jobs.isEmpty = true
  · rw [if_pos empty]
    exact dealing.answer trivial
  · rw [if_neg empty]
    by_cases overdue : yard.hasPassed deadline = true
    · rw [if_pos overdue]
      exact dealing.answer trivial
    · rw [if_neg overdue]
      exact dealing.wait (.drain timeout deadline) (by simpa [Call.isParked] using outside)
        unstaffed (by simp [wouldProgress, empty, overdue])

theorem Dealing.pollWatch (dealing : before.Dealing id yard) (outside : id ∉ yard.slots.parked)
    (unstaffed : yard.staff id = []) (scope : ScopeId) :
    Polled id (.watch scope) before (yard.pollWatch id scope) := by
  unfold Yard.pollWatch
  cases ended : yard.ended? scope with
  | some reason =>
    rw [query_of_some ended]
    exact (dealing.settled ended).answer trivial
  | none =>
    rw [query_of_none ended]
    exact dealing.wait (.watch scope) (by simpa [Call.isParked] using outside) unstaffed
      (by simp [wouldProgress, ended])

/-! ### Any poll -/

/-- A call that is under way was numbered. -/
theorem InOrderBut.numbered {call : Call Body} (inOrder : yard.InOrder)
    (found : yard.calls.get? id = some call) : id.serial < yard.callCount :=
  inOrder.callsKnown id (Listing.get?_isSome_iff.mp (by simp [found]))

/-- A call that is under way can be dealt with. -/
theorem InOrderBut.underWay {call : Call Body} (inOrder : yard.InOrder)
    (found : yard.calls.get? id = some call) :
    yard.Dealing id yard ∧ (id ∈ yard.slots.parked ↔ call.isParked = true) ∧
      call.Fits id (yard.staff id) := by
  refine ⟨.start (inOrder.deal (inOrder.numbered found)), ?_,
    inOrder.fits id call (by simp) found⟩
  simpa [found] using inOrder.parked id (by simp)

/-- Whoever waits for a slot and hears news of it can go on. -/
theorem progress_of_news {call : Call Body} {staff : List Purpose} (fits : call.Fits id staff)
    (parked : call.isParked = true) (news : yard.slots.hasNews id = true) :
    yard.wouldProgress id call = true := by
  cases call with
  | submit body => exact news
  | soloQueued scope body => simp [wouldProgress, news]
  | batch held => simp [wouldProgress, fits.1.pressing parked, news]
  | solo scope reply => cases parked
  | drain timeout deadline => cases parked
  | watch scope => cases parked

/-- What comes of polling a call that is under way. -/
theorem InOrderBut.poll {call : Call Body} (inOrder : yard.InOrder)
    (found : yard.calls.get? id = some call) : Polled id call.concern yard (yard.poll id) := by
  obtain ⟨dealing, waits, fits⟩ := inOrder.underWay found
  unfold Yard.poll
  rw [found]
  cases call with
  | submit body => exact dealing.pollSubmit waits fits body
  | soloQueued scope body => exact dealing.pollSoloQueued waits fits body
  | solo scope reply => exact dealing.pollSolo (by simpa [Call.isParked] using waits) fits
  | batch batch => exact Dealt.pollBatch ⟨dealing, waits, fits.1⟩
  | drain timeout deadline =>
    exact dealing.pollDrain (by simpa [Call.isParked] using waits) fits timeout deadline
  | watch scope => exact dealing.pollWatch (by simpa [Call.isParked] using waits) fits scope

end Yard

end Taskyard

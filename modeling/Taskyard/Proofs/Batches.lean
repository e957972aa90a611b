/-
This file says more of what comes of polling a batch: which tasks have their
entry afterwards, and what it is. Submitting tasks makes no entries but for the
tasks that were refused a slot. A batch of which no body runs after all of its
tasks were submitted was refused a slot for every one of them, and if one of the
tasks had been waiting for a slot, that is because the slots were closed.
-/

import Taskyard.Proofs.Order.Begin

namespace Taskyard

variable {Body : Type}

namespace Outcome

/-- The entries of several outputs that are recorded for the first time. -/
theorem errors_recordAll {outcome : Outcome} {outputs : List (TaskId × Output)}
    (distinct : (outcome.tasks ++ outputs.map Prod.fst).Nodup) :
    (outcome.recordAll outputs).errors =
      outcome.errors ++ outputs.map fun entry => (entry.1, entryOf entry.2) := by
  induction outputs generalizing outcome with
  | nil => simp [recordAll]
  | cons entry rest inductionHypothesis =>
    have fresh : entry.1 ∉ outcome.tasks := fun member =>
      List.disjoint_of_nodup_append distinct member (by simp)
    have recorded : ((outcome.record entry.1 entry.2).recordAll rest).errors = _ :=
      inductionHypothesis (by simpa [tasks_record fresh] using distinct)
    show ((outcome.record entry.1 entry.2).recordAll rest).errors = _
    rw [recorded, errors_record, Listing.put_of_not_mem fresh]
    simp

/-- No entry says that a scope has ended. -/
def IsClear (outcome : Outcome) : Prop :=
  ∀ entry ∈ outcome.errors, ∀ reason, entry.2 ≠ some (.scope reason)

theorem isClear_empty : empty.IsClear := List.forall_mem_nil _

theorem IsClear.record {outcome : Outcome} {output : Output} (clear : outcome.IsClear)
    (task : TaskId) (other : ∀ reason, output ≠ .error (.scope reason)) :
    (outcome.record task output).IsClear := by
  intro entry member reason
  rw [errors_record] at member
  rcases Listing.mem_put member with listed | rfl
  · exact clear entry listed reason
  · cases output with
    | ok value => simp [entryOf]
    | error error => simpa [entryOf] using other reason

theorem IsClear.recordAll {outcome : Outcome} {outputs : List (TaskId × Output)}
    (clear : outcome.IsClear)
    (others : ∀ entry ∈ outputs, ∀ reason, entry.2 ≠ .error (.scope reason)) :
    (outcome.recordAll outputs).IsClear := by
  induction outputs generalizing outcome with
  | nil => exact clear
  | cons entry rest inductionHypothesis =>
    obtain ⟨other, behind⟩ := List.forall_mem_cons.mp others
    exact inductionHypothesis (clear.record entry.1 other) behind

theorem errors_record_ne_nil (outcome : Outcome) (task : TaskId) (output : Output) :
    (outcome.record task output).errors ≠ [] := by
  intro none
  have found := Listing.get?_put task task (entryOf output) outcome.errors
  rw [← errors_record, none] at found
  simp [Listing.get?] at found

end Outcome

/-- A batch that has looked at what came in, unless a task is left to submit. -/
def Batch.looked (batch : Batch Body) : Batch Body :=
  if batch.unsubmitted.isEmpty then
    { batch with inbox := [], outcome := batch.outcome.recordAll batch.inbox }
  else batch

theorem Batch.scope_looked (batch : Batch Body) : batch.looked.scope = batch.scope := by
  unfold looked
  split <;> rfl

namespace Yard

variable {id : CallId} {batch : Batch Body}

/-! ### Submitting tasks -/

/-- A batch, and the yard, after the tasks that can be submitted were. -/
def submitted (yard : Yard Body) (id : CallId) (batch : Batch Body) : Batch Body × Yard Body :=
  yard.dispatch id batch batch.queued batch.unsubmitted batch.outcome

theorem poll_of_batch {yard : Yard Body} (found : yard.calls.get? id = some (.batch batch)) :
    yard.poll id = yard.pollBatch id batch := by
  rw [Yard.poll, found]

/-- A batch that is under way can submit. -/
theorem InOrderBut.dispatched {yard : Yard Body} (inOrder : yard.InOrder)
    (found : yard.calls.get? id = some (.batch batch)) :
    Dispatched id yard (yard.submitted id batch) := by
  obtain ⟨dealing, waits, fits, -⟩ := inOrder.underWay found
  exact Dealt.dispatch ⟨dealing, waits, fits⟩

/-- What came in for a batch is not looked at before its tasks were submitted. -/
theorem inbox_submitted (yard : Yard Body) (id : CallId) (batch : Batch Body) :
    (yard.submitted id batch).1.inbox = batch.inbox := by
  obtain ⟨_, _, _, same⟩ :=
    dispatch_batch id batch batch.queued batch.unsubmitted yard batch.outcome
  rw [submitted, same]

/-- Asking for slots does not touch the scopes, and no job that works for the call is lost. -/
theorem dispatch_yard (id : CallId) (batch : Batch Body) (queued : Bool)
    (entries : List (Entry Body)) (yard : Yard Body) (outcome : Outcome) :
    (yard.dispatch id batch queued entries outcome).2.scopes = yard.scopes ∧
      ∃ more,
        (yard.dispatch id batch queued entries outcome).2.staff id = yard.staff id ++ more := by
  induction entries generalizing queued yard outcome with
  | nil => exact ⟨rfl, [], (List.append_nil _).symm⟩
  | cons entry rest inductionHypothesis =>
    unfold dispatch
    rcases yard.slots.turn id queued with ⟨turn, slots⟩
    cases turn with
    | admitted =>
      obtain ⟨scopes, more, staff⟩ := inductionHypothesis false
        ({ yard with slots := slots }.enlist (.member id entry.task batch.scope) entry.body) outcome
      rw [staff_enlist_own rfl, List.append_assoc] at staff
      exact ⟨scopes, _, staff⟩
    | refused error => exact inductionHypothesis false _ _
    | queued => exact ⟨rfl, [], (List.append_nil _).symm⟩

theorem dispatch_clear {queued : Bool} {entries : List (Entry Body)} {yard : Yard Body}
    {outcome : Outcome} (clear : outcome.IsClear) :
    (yard.dispatch id batch queued entries outcome).1.outcome.IsClear := by
  induction entries generalizing queued yard outcome with
  | nil => exact clear
  | cons entry rest inductionHypothesis =>
    unfold dispatch
    rcases yard.slots.turn id queued with ⟨turn, slots⟩
    cases turn with
    | admitted => exact inductionHypothesis clear
    | refused error => exact inductionHypothesis (clear.record entry.task (by simp))
    | queued => exact clear

theorem dispatch_errors {queued : Bool} {entries : List (Entry Body)} {yard : Yard Body}
    {outcome : Outcome} (some : outcome.errors ≠ []) :
    (yard.dispatch id batch queued entries outcome).1.outcome.errors ≠ [] := by
  induction entries generalizing queued yard outcome with
  | nil => exact some
  | cons entry rest inductionHypothesis =>
    unfold dispatch
    rcases yard.slots.turn id queued with ⟨turn, slots⟩
    cases turn with
    | admitted => exact inductionHypothesis some
    | refused error => exact inductionHypothesis (outcome.errors_record_ne_nil entry.task _)
    | queued => exact some

/-- If no task is left to submit and no body runs, the first task was refused a slot. -/
theorem dispatch_refused {queued : Bool} {entry : Entry Body} {rest : List (Entry Body)}
    {yard : Yard Body} {outcome : Outcome}
    (complete : (yard.dispatch id batch queued (entry :: rest) outcome).1.unsubmitted = [])
    (unstaffed : (yard.dispatch id batch queued (entry :: rest) outcome).2.staff id = []) :
    (yard.dispatch id batch queued (entry :: rest) outcome).1.outcome.errors ≠ [] ∧
      ∃ error, (yard.slots.turn id queued).1 = .refused error := by
  unfold dispatch at complete unstaffed ⊢
  rcases told : yard.slots.turn id queued with ⟨turn, slots⟩
  rw [told] at complete unstaffed
  cases turn with
  | admitted =>
    obtain ⟨-, more, staff⟩ := dispatch_yard id batch false rest
      ({ yard with slots := slots }.enlist (.member id entry.task batch.scope) entry.body) outcome
    rw [staff_enlist_own rfl] at staff
    simp [staff] at unstaffed
  | refused error => exact ⟨dispatch_errors (outcome.errors_record_ne_nil entry.task _), error, rfl⟩
  | queued => cases complete

/-- A submitter that waits is refused a slot only if the slots were closed. -/
theorem closed_of_refused {slots : Slots} {call : CallId} {error : PoolError}
    (refused : (slots.turn call true).1 = .refused error) : slots.closed = true := by
  rcases Slots.askAgain_cases slots call with
    ⟨closed, told⟩ | ⟨-, -, told⟩ | ⟨-, -, told⟩ <;> simp_all [Slots.turn]

/-- Slots that are closed are refused to everybody. -/
theorem turn_closed {slots : Slots} (closed : slots.closed = true) (call : CallId) (queued : Bool) :
    ∃ after, slots.turn call queued = (.refused .closed, after) ∧ after.closed = true := by
  cases queued with
  | false => exact ⟨slots, by simp [Slots.turn, Slots.ask, closed], closed⟩
  | true =>
    refine ⟨slots.withdraw call, by simp [Slots.turn, Slots.askAgain, closed], ?_⟩
    rw [(slots.withdraw_frame call).2.1, closed]

theorem dispatch_closed {queued : Bool} {entries : List (Entry Body)} {yard : Yard Body}
    {outcome : Outcome} (closed : yard.slots.closed = true) :
    (yard.dispatch id batch queued entries outcome).1.unsubmitted = [] ∧
      (yard.dispatch id batch queued entries outcome).2.staff id = yard.staff id := by
  induction entries generalizing queued yard outcome with
  | nil => exact ⟨rfl, rfl⟩
  | cons entry rest inductionHypothesis =>
    obtain ⟨slots, refused, still⟩ := turn_closed closed id queued
    unfold dispatch
    rw [refused]
    exact inductionHypothesis still

/-- When a batch that was left to itself is complete in its next poll. -/
theorem complete_iff {yard : Yard Body} (left : batch.unsubmitted ≠ [] → batch.queued = true) :
    ((yard.submitted id batch).1.unsubmitted = [] ∧
      (yard.submitted id batch).2.isUnmanned id = true) ↔
    (batch.unsubmitted = [] ∨ yard.slots.closed = true) ∧ yard.isUnmanned id = true := by
  simp only [isUnmanned_iff, submitted]
  constructor
  · rintro ⟨complete, unstaffed⟩
    obtain ⟨-, more, staff⟩ :=
      dispatch_yard id batch batch.queued batch.unsubmitted yard batch.outcome
    rw [staff, List.append_eq_nil_iff] at unstaffed
    refine ⟨?_, unstaffed.1⟩
    cases unsubmitted : batch.unsubmitted with
    | nil => exact .inl rfl
    | cons entry rest =>
      right
      rw [left (by simp [unsubmitted]), unsubmitted] at complete staff
      obtain ⟨-, error, refused⟩ := dispatch_refused complete (by simp [staff, unstaffed])
      exact closed_of_refused refused
  · rintro ⟨submitted | closed, unstaffed⟩
    · rw [submitted]
      exact ⟨rfl, unstaffed⟩
    · obtain ⟨complete, staff⟩ := dispatch_closed closed
      exact ⟨complete, staff.trans unstaffed⟩

/-- When nothing is known of any task of such a batch before it looks at what came in. -/
theorem errors_submitted {yard : Yard Body}
    (complete : (yard.submitted id batch).1.unsubmitted = [])
    (unstaffed : (yard.submitted id batch).2.staff id = []) :
    (yard.submitted id batch).1.outcome.errors = [] ↔
      batch.unsubmitted = [] ∧ batch.outcome.errors = [] := by
  unfold submitted at complete unstaffed ⊢
  cases unsubmitted : batch.unsubmitted with
  | nil => simp [dispatch]
  | cons entry rest =>
    rw [unsubmitted] at complete unstaffed
    simp [(dispatch_refused complete unstaffed).1]

/-! ### Polling a batch -/

/-- A batch is complete, or it goes on. -/
theorem pollBatch_cases (yard : Yard Body) (id : CallId) (batch : Batch Body) :
    (((yard.submitted id batch).1.unsubmitted = [] ∧
        (yard.submitted id batch).2.isUnmanned id = true) ∧
      (yard.pollBatch id batch).1 = some (.executed (some
        ((yard.submitted id batch).1.outcome.recordAll (yard.submitted id batch).1.inbox)))) ∨
    (¬((yard.submitted id batch).1.unsubmitted = [] ∧
        (yard.submitted id batch).2.isUnmanned id = true) ∧
      ∃ journal, yard.pollBatch id batch =
        { (yard.submitted id batch).2 with journal := journal }.awaitBatch id
          (yard.submitted id batch).1.looked) := by
  unfold pollBatch submitted
  rcases yard.dispatch id batch batch.queued batch.unsubmitted batch.outcome with ⟨held, rest⟩
  simp only [Batch.looked]
  by_cases complete : held.unsubmitted = []
  · obtain ⟨journal, collected⟩ := collect_eq held.scope held.inbox rest held.outcome
    simp only [complete, List.isEmpty_nil, if_true, collected, true_and]
    have same : { rest with journal := journal }.isUnmanned id = rest.isUnmanned id := rfl
    by_cases unmanned : rest.isUnmanned id = true
    · exact .inl ⟨unmanned, by rw [same, if_pos unmanned]; rfl⟩
    · exact .inr ⟨unmanned, journal, if_neg unmanned⟩
  · have more : held.unsubmitted.isEmpty = false := by simpa using complete
    exact .inr ⟨fun both => complete both.1, rest.journal, by simp [more]⟩

/-- A batch that goes on fails as a whole, or is kept while its scope has not ended. -/
theorem awaitBatch_cases (yard : Yard Body) (id : CallId) (batch : Batch Body) :
    (∃ error, (yard.awaitBatch id batch).1 = some (.executed (some (.failAll batch.tasks error)))) ∨
    (yard.ended? batch.scope = none ∧
      yard.awaitBatch id batch = (none, yard.keep id (.batch batch))) := by
  unfold awaitBatch
  split
  · exact .inl ⟨_, rfl⟩
  · cases ended : yard.ended? batch.scope with
    | some reason =>
      rw [query_of_some ended]
      exact .inl ⟨_, rfl⟩
    | none =>
      rw [query_of_none ended]
      exact .inr ⟨rfl, rfl⟩

end Yard

end Taskyard

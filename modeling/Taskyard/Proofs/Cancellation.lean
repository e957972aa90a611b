/-
This file says when the end of a scope shows in the outcome of a batch, and how.
A batch that notices the end of its scope while it waits fails as a whole. But a
body of the batch notices the end as well and is dropped, and what it hands over
says why. If no other body runs any more, the batch is complete when it is
polled next, and is answered with what it has: entries that name the end of the
scope beside entries that do not. The file shows that this is the only way to an
outcome that is mixed, and that it is one.
-/

import Taskyard.Proofs.Batches
import Taskyard.Proofs.Order.Bystanders

namespace Taskyard

variable {Body : Type}

namespace Outcome

/-- If one entry says that a scope has ended, no task has a value and every entry says the same. -/
def AllOrNothing (outcome : Outcome) : Prop :=
  ∀ task reason, (task, some (.scope reason)) ∈ outcome.errors →
    outcome.results = [] ∧ ∀ entry ∈ outcome.errors, entry.2 = some (.scope reason)

theorem IsClear.allOrNothing {outcome : Outcome} (clear : outcome.IsClear) :
    outcome.AllOrNothing :=
  fun _ reason member => absurd rfl (clear _ member reason)

theorem allOrNothing_failAll (tasks : List TaskId) (error : TaskError) :
    (failAll tasks error).AllOrNothing := by
  intro task reason member
  obtain ⟨_, -, same⟩ := List.mem_map.mp member
  cases same
  refine ⟨rfl, fun entry listed => ?_⟩
  obtain ⟨_, -, rfl⟩ := List.mem_map.mp listed
  rfl

/-- Where no entry is that of a success, no task has a value. -/
theorem Sound.results_eq_nil {outcome : Outcome} (sound : outcome.Sound)
    (failed : ∀ entry ∈ outcome.errors, entry.2 ≠ none) : outcome.results = [] := by
  rw [← List.map_eq_nil_iff (f := Prod.fst), List.eq_nil_iff_forall_not_mem]
  intro task member
  have entry := (sound.agrees task).mp (Listing.get?_isSome_iff.mpr member)
  exact failed _ ((Listing.get?_eq_some_iff sound.distinct).mp entry) rfl

/-- When an outcome is of one piece after outputs were recorded some of which may say that the scope
has ended. -/
theorem allOrNothing_recordAll_iff {outcome : Outcome} {inbox : List (TaskId × Output)}
    (sound : (outcome.recordAll inbox).Sound)
    (distinct : (outcome.tasks ++ inbox.map Prod.fst).Nodup) (clear : outcome.IsClear)
    (agree : ∀ first second task other, (task, .error (.scope first)) ∈ inbox →
      (other, .error (.scope second)) ∈ inbox → first = second) :
    (outcome.recordAll inbox).AllOrNothing ↔
      ¬((∃ task reason, (task, .error (.scope reason)) ∈ inbox) ∧
        (outcome.errors ≠ [] ∨ ∃ entry ∈ inbox, ∀ reason, entry.2 ≠ .error (.scope reason))) := by
  unfold AllOrNothing
  rw [errors_recordAll distinct]
  constructor
  · rintro whole ⟨⟨task, reason, member⟩, mixed⟩
    obtain ⟨-, same⟩ := whole task reason
      (List.mem_append_right _ (List.mem_map.mpr ⟨_, member, rfl⟩))
    rcases mixed with known | ⟨entry, listed, other⟩
    · obtain ⟨entry, listed⟩ := List.exists_mem_of_ne_nil _ known
      exact clear entry listed reason (same entry (List.mem_append_left _ listed))
    · have said := same _ (List.mem_append_right _ (List.mem_map_of_mem listed))
      exact other reason (entryOf_eq_some_iff.mp said)
  · intro pure task reason member
    rcases List.mem_append.mp member with known | new
    · exact absurd rfl (clear _ known reason)
    · obtain ⟨entry, listed, same⟩ := List.mem_map.mp new
      have said := entryOf_eq_some_iff.mp (congrArg Prod.snd same)
      have dropped : (entry.1, .error (.scope reason)) ∈ inbox := said ▸ listed
      have rest := not_or.mp fun mixed => pure ⟨⟨_, _, dropped⟩, mixed⟩
      have every : ∀ entry ∈ outcome.errors ++ inbox.map fun entry => (entry.1, entryOf entry.2),
          entry.2 = some (.scope reason) := by
        rw [not_not.mp rest.1, List.nil_append]
        intro other member
        obtain ⟨output, came, rfl⟩ := List.mem_map.mp member
        obtain ⟨later, alike⟩ : ∃ later, output.2 = .error (.scope later) := by
          by_contra none
          exact rest.2 ⟨output, came, fun later alike => none ⟨later, alike⟩⟩
        have same := agree reason later entry.1 output.1 dropped (alike ▸ came)
        rw [alike, entryOf, same]
      refine ⟨sound.results_eq_nil fun entry member => ?_, every⟩
      rw [errors_recordAll distinct] at member
      simp [every entry member]

end Outcome

/-! ### What a batch knows of the end of its scope -/

/-- What a batch that is under way knows of the end of its scope. -/
structure Batch.Notices (batch : Batch Body) (scopes : Scopes) : Prop where
  /-- What came in and says why the scope has ended says what was written down. -/
  written : ∀ task reason, (task, .error (.scope reason)) ∈ batch.inbox →
    scopes.written? batch.scope = some reason
  /-- Nothing of the kind was looked at yet. -/
  clear : batch.outcome.IsClear

theorem Batch.Notices.evolve {batch : Batch Body} {now : Duration} {before after : Scopes}
    (notices : batch.Notices before) (evolves : Scopes.Evolves now before after) :
    batch.Notices after where
  written task reason member := evolves.written (notices.written task reason member)
  clear := notices.clear

/-- While its scope has not ended, a batch finds nothing of the kind when it looks. -/
theorem Batch.Notices.look {batch : Batch Body} {scopes : Scopes} {now : Duration}
    (notices : batch.Notices scopes) (going : scopes.ended? now batch.scope = none) :
    batch.looked.Notices scopes := by
  unfold looked
  split
  · refine ⟨fun _ _ none => absurd none List.not_mem_nil, notices.clear.recordAll ?_⟩
    intro entry member reason same
    have written := notices.written entry.1 reason (same ▸ member)
    simp [Scopes.ended?_of_written written now] at going
  · exact notices

namespace Yard

variable {yard : Yard Body} {id : CallId}

/-- What the batches that are under way know of the ends of their scopes. -/
def Noticed (yard : Yard Body) : Prop :=
  ∀ id batch, yard.calls.get? id = some (.batch batch) → batch.Notices yard.scopes

theorem notices_submitted {batch : Batch Body} (notices : batch.Notices yard.scopes) :
    (yard.submitted id batch).1.Notices (yard.submitted id batch).2.scopes := by
  have clear : (yard.submitted id batch).1.outcome.IsClear := dispatch_clear notices.clear
  obtain ⟨_, _, _, same⟩ :=
    dispatch_batch id batch batch.queued batch.unsubmitted yard batch.outcome
  obtain ⟨scopes, -⟩ := dispatch_yard id batch batch.queued batch.unsubmitted yard batch.outcome
  rw [← submitted] at same scopes
  refine ⟨?_, clear⟩
  rw [same, scopes]
  exact notices.written

/-- A batch that is kept knows no more of the end of its scope than was written down. -/
theorem notices_pollBatch {before : Yard Body} {batch held : Batch Body}
    (dealt : before.Dealt id batch yard) (notices : batch.Notices yard.scopes)
    (kept : (yard.pollBatch id batch).2.calls.get? id = some (.batch held)) :
    held.Notices (yard.pollBatch id batch).2.scopes := by
  have unanswered := (dealt.pollBatch.waits kept).1
  rcases pollBatch_cases yard id batch with ⟨-, answer⟩ | ⟨-, journal, goesOn⟩
  · rw [answer] at unanswered
    cases unanswered
  · rw [goesOn] at unanswered kept ⊢
    rcases awaitBatch_cases { (yard.submitted id batch).2 with journal := journal } id
      (yard.submitted id batch).1.looked with ⟨error, failed⟩ | ⟨going, waits⟩
    · rw [failed] at unanswered
      cases unanswered
    · rw [waits] at kept ⊢
      simp only [Yard.keep, Listing.get?_put, if_true, Option.some.injEq, Call.batch.injEq] at kept
      rw [Batch.scope_looked] at going
      rw [← kept]
      exact (notices_submitted notices).look going

theorem notices_taken {scope : ScopeId} {timeout begun : Duration} {entries : List (Entry Body)}
    {scopes : Scopes} : (taken scope timeout begun entries).Notices scopes :=
  ⟨fun _ _ none => absurd none List.not_mem_nil, Outcome.isClear_empty⟩

/-- A poll leaves every batch that is under way with what it may know. -/
theorem Polled.noticed {concern : Concern} {before : Yard Body} {result : Option Reply × Yard Body}
    (polled : Polled id concern before result) (noticed : before.Noticed)
    (own : ∀ batch, result.2.calls.get? id = some (.batch batch) → batch.Notices result.2.scopes) :
    result.2.Noticed := by
  intro other batch found
  by_cases same : other = id
  · subst same
    exact own batch found
  · rw [polled.others other same] at found
    exact (noticed other batch found).evolve (.asked polled.scopes)

theorem Noticed.poll (noticed : yard.Noticed) (kept : yard.Kept) (id : CallId) :
    (yard.poll id).2.Noticed := by
  cases found : yard.calls.get? id with
  | none =>
    rw [poll_of_absent found]
    exact noticed
  | some call =>
    have polled := kept.inOrder.poll found
    refine polled.noticed noticed fun held after => ?_
    have same := (polled.waits after).2.1
    cases call with
    | batch batch =>
      obtain ⟨dealing, waits, fits⟩ := kept.inOrder.underWay found
      rw [poll_of_batch found] at after ⊢
      exact notices_pollBatch ⟨dealing, waits, fits.1⟩ (noticed id batch found) after
    | _ => cases same

theorem Noticed.begin (noticed : yard.Noticed) (kept : yard.Kept) (request : Request Body) :
    (yard.begin request).2.2.Noticed := by
  have prepared : (yard.prepared request).Noticed := fun id batch found => by
    rw [calls_prepared] at found
    rw [scopes_prepared]
    exact noticed id batch found
  cases concern : yard.concern? request with
  | none =>
    obtain ⟨scope, rfl, answered⟩ := begin_of_none concern
    rw [answered]
    exact prepared
  | some concern =>
    have polled := kept.inOrder.begin kept.stocked concern
    refine polled.noticed prepared fun held after => ?_
    have same := (polled.waits after).2.1
    cases request with
    | exec scope =>
      obtain ⟨entries, batch, -⟩ := Option.map_eq_some_iff.mp concern
      obtain ⟨outside, unstaffed, -⟩ := kept.inOrder.fresh
      have unanswered := (polled.waits after).1
      rw [begin_exec batch] at unanswered after ⊢
      rcases beginBatch_cases (yard.prepared (.exec scope)) ⟨yard.callCount⟩ scope yard.timeout
        entries with ⟨reason, note, -, failed⟩ | ⟨note, begun⟩
      · rw [failed] at unanswered
        cases unanswered
      · rw [begun] at after ⊢
        have dealing := Dealing.start (kept.inOrder.prepare (.exec scope)) |>.noted note
        exact notices_pollBatch (dealing.taken outside unstaffed
          (kept.stocked.distinct_of_get? batch) scope yard.timeout _) notices_taken after
    | submit body => cases concern; cases same
    | submitTask scope body => cases concern; cases same
    | drain timeout => cases concern; cases same
    | watch scope => cases concern; cases same

/-- A job of a batch runs under the scope of the batch. -/
theorem scope_of_member {job : Job Body} {task : TaskId} {scope : ScopeId} {batch : Batch Body}
    (inOrder : yard.InOrder) (member : job ∈ yard.jobs)
    (purpose : job.purpose = .member id task scope)
    (found : yard.calls.get? id = some (.batch batch)) : scope = batch.scope := by
  obtain ⟨members, staff, -⟩ := (inOrder.fits id _ (by simp) found).1.accounted
  have works : job.purpose ∈ yard.staff id :=
    List.mem_map_of_mem (List.mem_filter.mpr ⟨member, worksFor_iff.mpr (by rw [purpose]; rfl)⟩)
  rw [staff, purpose] at works
  obtain ⟨_, -, same⟩ := List.mem_map.mp works
  cases same
  rfl

/-- What a batch hears of the end of a job: an output more comes in, or nothing. -/
theorem hear_eq_batch {call : Call Body} {purpose : Purpose} {output : Output} {batch : Batch Body}
    (heard : call.hear purpose output = .batch batch) : ∃ held, call = .batch held ∧
      (batch = held ∨ ∃ id task scope, purpose = .member id task scope ∧
        batch = { held with inbox := held.inbox ++ [(task, output)] }) := by
  cases purpose with
  | errand => exact ⟨batch, heard, .inl rfl⟩
  | solo other =>
    cases call with
    | batch held =>
      cases heard
      exact ⟨_, rfl, .inl rfl⟩
    | solo scope reply => cases reply <;> cases heard
    | _ => cases heard
  | member id task scope =>
    cases call with
    | batch held =>
      cases heard
      exact ⟨held, rfl, .inr ⟨id, task, scope, rfl, rfl⟩⟩
    | _ => cases heard

/-- The end of a job tells a batch of the end of its scope only what was written down. -/
theorem Noticed.retire {job : Job Body} {output : Output} (noticed : yard.Noticed)
    (inOrder : yard.InOrder) (member : job ∈ yard.jobs)
    (known : ∀ reason, output = .error (.scope reason) → ∀ call task scope,
      job.purpose = .member call task scope → yard.scopes.written? scope = some reason) :
    (yard.retire job output).Noticed := by
  intro id batch found
  rw [scopes_retire]
  rw [(inOrder.retire member output).calls id] at found
  by_cases patron : job.purpose.patron? = some id
  · rw [if_pos patron] at found
    obtain ⟨call, former, heard⟩ := Option.map_eq_some_iff.mp found
    obtain ⟨held, rfl, rfl | ⟨other, task, scope, purpose, rfl⟩⟩ := hear_eq_batch heard
    · exact noticed id _ former
    · obtain ⟨written, clear⟩ := noticed id held former
      rw [purpose] at patron
      cases patron
      refine ⟨fun sender reason listed => ?_, clear⟩
      rcases List.mem_append.mp listed with before | new
      · exact written sender reason before
      · have same := congrArg Prod.snd (List.mem_singleton.mp new)
        rw [← scope_of_member inOrder member purpose former]
        exact known reason same.symm _ task scope purpose
  · rw [if_neg patron] at found
    exact noticed id batch found

theorem Noticed.of_calls {other : Yard Body} (noticed : yard.Noticed)
    (calls : ∀ id call, other.calls.get? id = some call → yard.calls.get? id = some call)
    {now : Duration} (evolves : Scopes.Evolves now yard.scopes other.scopes) : other.Noticed :=
  fun id batch found => (noticed id batch (calls id _ found)).evolve evolves

/-- Every event leaves the batches that are under way with what they may know. -/
theorem Noticed.step (noticed : yard.Noticed) (kept : yard.Kept) (event : Event Body) :
    (yard.step event).Noticed := by
  cases event with
  | begin request => exact noticed.begin kept request
  | poll id => exact noticed.poll kept id
  | finish job ending =>
    rcases finishJob_cases yard job ending with
      same | ⟨running, member, -, -, journal, reported, retired⟩
    · rwa [Yard.step, same]
    · have unmoved : { yard with journal := journal, reported := reported }.InOrder :=
        kept.inOrder.of_floor rfl
      rw [Yard.step, retired]
      exact Noticed.retire noticed unmoved member fun reason same =>
        absurd same (ending.outputFor_ne_scope running.purpose reason)
  | abandon job =>
    rcases abandonJob_cases yard job with
      same | ⟨running, member, -, call, task, scope, reason, purpose, ended, retired⟩
    · rwa [Yard.step, same]
    · have unmoved : { yard with scopes := yard.scopes.settle scope reason }.InOrder :=
        kept.inOrder.of_floor rfl
      have settled : { yard with scopes := yard.scopes.settle scope reason }.Noticed :=
        noticed.of_calls (fun _ _ found => found) (.asked (.settled .nothing ended))
      rw [Yard.step, retired]
      refine settled.retire unmoved member fun other same _ _ _ also => ?_
      cases same
      rw [purpose] at also
      cases also
      exact Scopes.written?_settle_of_ended ended
  | push scope label body =>
    refine noticed.of_calls (fun id call found => ?_) (kept.evolves _)
    obtain ⟨scopes, backlog, taskCount, journal, -, pushed⟩ := push_eq yard scope label body
    rw [Yard.step, pushed] at found
    exact found
  | tick moment =>
    refine noticed.of_calls (fun id call found => ?_) (kept.evolves _)
    obtain ⟨now, -, moved⟩ := advanceTo_eq yard moment
    rw [Yard.step, moved] at found
    exact found
  | drop other =>
    refine noticed.of_calls (fun id call found => ?_) (kept.evolves (.drop other))
    simp only [Yard.step, drop, Listing.get?_remove] at found
    split at found
    · cases found
    · exact found
  | openScope | cancel | query | discard | setTimeout | release | start =>
    exact noticed.of_calls (fun _ _ found => found) (kept.evolves _)

theorem Reached.noticed {options : Options} (reached : Reached options yard) : yard.Noticed := by
  refine (reached.invariant Noticed (fun start opened => ?_)
    fun yard event kept noticed => noticed.step kept event).2
  obtain ⟨slots, -, rfl⟩ := openNoted?_eq opened
  intro id batch found
  cases found

/-! ### Outcomes that are mixed -/

/-- A batch that is complete when it is polled, though one of its bodies was dropped because the
scope has ended, and though not all of its tasks came to that. -/
structure IsSplit (yard : Yard Body) (id : CallId) (batch : Batch Body) : Prop where
  submitted : batch.unsubmitted = [] ∨ yard.slots.closed = true
  unmanned : yard.isUnmanned id = true
  dropped : ∃ task reason, (task, .error (.scope reason)) ∈ batch.inbox
  /-- A task is refused a slot, or came to something else before, or has just come to it. -/
  mixed : batch.unsubmitted ≠ [] ∨ batch.outcome.errors ≠ [] ∨
    ∃ entry ∈ batch.inbox, ∀ reason, entry.2 ≠ .error (.scope reason)

theorem isSplit_iff {batch : Batch Body} (left : batch.unsubmitted ≠ [] → batch.queued = true) :
    yard.IsSplit id batch ↔
      ((yard.submitted id batch).1.unsubmitted = [] ∧
        (yard.submitted id batch).2.isUnmanned id = true) ∧
      (∃ task reason, (task, .error (.scope reason)) ∈ batch.inbox) ∧
      ((yard.submitted id batch).1.outcome.errors ≠ [] ∨
        ∃ entry ∈ batch.inbox, ∀ reason, entry.2 ≠ .error (.scope reason)) := by
  constructor
  · rintro ⟨submitted, unmanned, dropped, mixed⟩
    have complete := (complete_iff left).mpr ⟨submitted, unmanned⟩
    have errors := errors_submitted complete.1 (isUnmanned_iff.mp complete.2)
    refine ⟨complete, dropped, ?_⟩
    rw [ne_eq, errors, not_and_or, or_assoc]
    exact mixed
  · rintro ⟨complete, dropped, mixed⟩
    have errors := errors_submitted complete.1 (isUnmanned_iff.mp complete.2)
    obtain ⟨submitted, unmanned⟩ := (complete_iff left).mp complete
    rw [ne_eq, errors, not_and_or, or_assoc] at mixed
    exact ⟨submitted, unmanned, dropped, mixed⟩

/-- A batch that is answered because it cannot go on fails as a whole. -/
theorem allOrNothing_awaitBatch {batch : Batch Body} {outcome : Outcome}
    (answered : (yard.awaitBatch id batch).1 = some (.executed (some outcome))) :
    outcome.AllOrNothing := by
  rcases awaitBatch_cases yard id batch with ⟨error, failed⟩ | ⟨-, waits⟩
  · rw [failed] at answered
    cases answered
    exact Outcome.allOrNothing_failAll batch.tasks error
  · rw [waits] at answered
    cases answered

/-- The outcome of a batch that is answered at once is never mixed. -/
theorem allOrNothing_begin {scope : ScopeId} {outcome : Outcome}
    (answered : (yard.begin (.exec scope)).2.1 = some (.executed (some outcome))) :
    outcome.AllOrNothing := by
  cases batch : yard.backlog.batches.get? scope with
  | none =>
    rw [begin_exec_of_absent batch] at answered
    cases answered
  | some entries =>
    rw [begin_exec batch] at answered
    rcases beginBatch_cases (yard.prepared (.exec scope)) ⟨yard.callCount⟩ scope yard.timeout
      entries with ⟨reason, note, -, failed⟩ | ⟨note, begun⟩
    · rw [failed] at answered
      cases answered
      exact Outcome.allOrNothing_failAll _ _
    · rw [begun] at answered
      rcases pollBatch_cases ((yard.prepared (.exec scope)).note note) ⟨yard.callCount⟩
        (taken scope yard.timeout (yard.prepared (.exec scope)).now entries) with
        ⟨-, ends⟩ | ⟨-, journal, goesOn⟩
      · rw [ends] at answered
        cases answered
        rw [inbox_submitted]
        exact (dispatch_clear Outcome.isClear_empty).allOrNothing
      · rw [goesOn] at answered
        exact allOrNothing_awaitBatch answered

/-- The outcome of a batch that is answered later is mixed in one case. -/
theorem Reached.allOrNothing_poll {options : Options} (reached : Reached options yard)
    {batch : Batch Body} {outcome : Outcome} (found : yard.calls.get? id = some (.batch batch))
    (answered : (yard.poll id).1 = some (.executed (some outcome))) :
    outcome.AllOrNothing ↔ ¬yard.IsSplit id batch := by
  have kept := reached.kept.1
  obtain ⟨dealing, waits, fits, left⟩ := kept.inOrder.underWay found
  have notices := reached.noticed id batch found
  have answer : yard.poll id = yard.pollBatch id batch := by rw [Yard.poll, found]
  have settled : Dispatched id yard (yard.submitted id batch) :=
    Dealt.dispatch ⟨dealing, waits, fits⟩
  rw [answer] at answered
  rw [isSplit_iff left]
  rcases pollBatch_cases yard id batch with ⟨complete, ends⟩ | ⟨goingOn, journal, goesOn⟩
  · rw [ends] at answered
    cases answered
    have collected := settled.dealt.fits.collect.outcome
    have distinct := settled.dealt.fits.incoming
    rw [inbox_submitted] at collected distinct ⊢
    rw [Outcome.allOrNothing_recordAll_iff collected distinct (dispatch_clear notices.clear)]
    · simp [complete]
    · intro first second task other one two
      exact Option.some.inj ((notices.written task first one).symm.trans
        (notices.written other second two))
  · rw [goesOn] at answered
    simp [allOrNothing_awaitBatch answered, goingOn]

/-- The outcome of a batch is mixed in one case and in no other. -/
theorem executed_allOrNothing_iff {options : Options} (reached : Reached options yard) :
    (∀ scope outcome, (yard.begin (.exec scope)).2.1 = some (.executed (some outcome)) →
      outcome.AllOrNothing) ∧
    ∀ id batch outcome, yard.calls.get? id = some (.batch batch) →
      (yard.poll id).1 = some (.executed (some outcome)) →
      (outcome.AllOrNothing ↔ ¬yard.IsSplit id batch) :=
  ⟨fun _ _ answered => allOrNothing_begin answered,
    fun _ _ _ found answered => reached.allOrNothing_poll found answered⟩

/-- Two bodies of a batch have slots. One returns a value and cancels the scope on the way; the
other is dropped before the batch is polled. -/
def halved : List (Event Unit) :=
  [.openScope .root, .push ⟨1⟩ "first" (), .push ⟨1⟩ "second" (), .begin (.exec ⟨1⟩),
    .start ⟨0⟩, .cancel ⟨1⟩, .finish ⟨0⟩ (.returned (.text "done")), .abandon ⟨1⟩]

/-- What the batch is answered: a value beside an entry that says that the scope has ended. -/
def half : Outcome :=
  ⟨[(⟨0, "first"⟩, .text "done")],
    [(⟨0, "first"⟩, none), (⟨1, "second"⟩, some (.scope .cancelled))]⟩

/-- An outcome may be mixed. -/
theorem exists_mixed_outcome : ∃ yard : Yard Unit, Reached (.ofCapacity 2) yard ∧
    (yard.poll ⟨0⟩).1 = some (.executed (some half)) ∧ ¬half.AllOrNothing := by
  refine ⟨_, ⟨_, halved, rfl, rfl⟩, rfl, fun whole => ?_⟩
  have empty := (whole ⟨1, "second"⟩ .cancelled (by simp [half])).1
  simp [half] at empty

/-- The batch that is answered so is complete though it is split. -/
theorem executed_allOrNothing_iff_halved : ∃ (yard : Yard Unit) (batch : Batch Unit),
    Reached (.ofCapacity 2) yard ∧ yard.calls.get? ⟨0⟩ = some (.batch batch) ∧
    (half.AllOrNothing ↔ ¬yard.IsSplit ⟨0⟩ batch) := by
  have run : ∃ (yard : Yard Unit) (batch : Batch Unit), Reached (.ofCapacity 2) yard ∧
      yard.calls.get? ⟨0⟩ = some (.batch batch) ∧
      (yard.poll ⟨0⟩).1 = some (.executed (some half)) :=
    ⟨_, _, ⟨_, halved, rfl, rfl⟩, rfl, rfl⟩
  obtain ⟨yard, batch, reached, found, answered⟩ := run
  exact ⟨yard, batch, reached, found,
    (executed_allOrNothing_iff reached).2 ⟨0⟩ batch half found answered⟩

end Yard

end Taskyard

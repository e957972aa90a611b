/-
This file follows a call that waits in a brisk yard, alone. To the yard in which
it is answered the one in which it began to wait has led by bodies that ran and
by looks in vain. Each of these leaves no more to wait for than there was, and
as long as there is something to wait for there is a body to run.
-/

import Taskyard.Proofs.Brevity

namespace Taskyard

/-- What is to come of the body of a call, or has come of it. -/
def Call.Owes (value : Value) : Call Task → Prop
  | .soloQueued _ body => body.finish = .returns value
  | .solo _ (some output) => output = .ok value
  | .submit _ | .solo _ none | .batch _ | .drain _ _ | .watch _ => True

/-! ### What happens while a call waits -/

namespace Yard

variable {first last later yard : Yard Task} {id : CallId}

/-- Bodies are run, and a call looks in vain for what it waits for. -/
inductive Goes (id : CallId) (first : Yard Task) : Yard Task → Prop
  | nothing : Goes id first first
  | ran {yard later : Yard Task} {job : Job Task} (goes : Goes id first yard)
      (ran : Ran job yard later) : Goes id first later
  | looked {yard : Yard Task} (goes : Goes id first yard) (vain : (yard.poll id).1 = none) :
      Goes id first (yard.poll id).2

theorem Goes.trans (goes : Goes id first yard) (further : Goes id yard last) :
    Goes id first last := by
  induction further with
  | nothing => exact goes
  | ran _ ran inductionHypothesis => exact .ran inductionHypothesis ran
  | looked _ vain inductionHypothesis => exact .looked inductionHypothesis vain

/-- In a brisk yard nobody waits but one call, and not for the end of a scope. -/
structure Waits (yard : Yard Task) (id : CallId) (concern : Concern) : Prop where
  brisk : yard.Brisk
  alone : yard.OnlyWaits id
  underWay : ∃ call, yard.calls.get? id = some call ∧ call.concern = concern
  other : ∀ scope, concern ≠ .watch scope

variable {concern : Concern} {job : Job Task}

theorem Waits.done (waits : yard.Waits id concern) (done : Done job yard later) :
    later.Waits id concern := by
  obtain ⟨call, found, same⟩ := waits.underWay
  obtain ⟨value, -, calls⟩ := done.calls
  exact {
    brisk := waits.brisk.done done
    alone := fun other apart => by simp [calls, waits.alone other apart]
    underWay := by
      rw [calls, found]
      split
      · exact ⟨_, rfl, (Call.concern_hear job.purpose _ call).trans same⟩
      · exact ⟨call, rfl, same⟩
    other := waits.other }

theorem Waits.polled (waits : yard.Waits id concern) :
    Polled id concern yard (yard.poll id) := by
  obtain ⟨call, found, rfl⟩ := waits.underWay
  exact waits.brisk.kept.inOrder.poll found

theorem Waits.looked (waits : yard.Waits id concern) (vain : (yard.poll id).1 = none) :
    (yard.poll id).2.Waits id concern ∧ (yard.poll id).2.isReady id = false := by
  have polled := waits.polled
  have brisk := waits.brisk.poll id
  have own := polled.own
  have others := polled.others
  rcases result : yard.poll id with ⟨answer, later⟩
  rw [result] at vain brisk own others
  cases vain
  obtain ⟨call, found, same, content⟩ := own
  exact ⟨⟨brisk, fun other apart => (others other apart).trans (waits.alone other apart),
    ⟨call, found, same⟩, waits.other⟩, by simp only [isReady, found, content]⟩

theorem Goes.waits (goes : Goes id first last) (waits : first.Waits id concern) :
    last.Waits id concern := by
  induction goes with
  | nothing => exact waits
  | ran _ ran inductionHypothesis =>
    exact inductionHypothesis.done (ran.done inductionHypothesis.brisk.kept)
  | looked _ vain inductionHypothesis => exact (inductionHypothesis.looked vain).1

/-! ### How much there is to wait for -/

/-- The bodies for which a call wants slots and has none yet, if it is under way. -/
def wanting {Body : Type} (yard : Yard Body) (id : CallId) : List (Assignment Body) :=
  ((yard.calls.get? id).map (Call.assignments id)).getD []

/-- How many bodies there are to run before a call needs to wait no longer. -/
def bodiesLeft (yard : Yard Task) (id : CallId) : Nat :=
  yard.jobs.length + (yard.wanting id).length

theorem Done.wanting (done : Done job yard later) (id : CallId) :
    later.wanting id = yard.wanting id := by
  obtain ⟨value, -, calls⟩ := done.calls
  rw [Yard.wanting, Yard.wanting, calls]
  split
  · cases yard.calls.get? id <;> simp [Call.assignments_hear]
  · rfl

/-- A look moves bodies from those that want slots to those that have one, and brings none. -/
theorem Places.bodiesLeft_le {queued : Bool} {result : Option Reply × Yard Task}
    (places : Places id queued (yard.wanting id) yard result) :
    result.2.bodiesLeft id ≤ yard.bodiesLeft id := by
  obtain ⟨recruits, jobs, -, accounted, -⟩ :=
    exists_recruits id queued (yard.wanting id) yard.floor
  have new : result.2.jobs = yard.jobs ++ recruits := places.parts.jobs.trans jobs
  have count := accounted.length_eq
  simp only [List.length_append, List.length_map] at count
  rw [bodiesLeft, bodiesLeft, new, List.length_append]
  cases found : result.2.calls.get? id with
  | none =>
    have nothing : result.2.wanting id = [] := by simp [Yard.wanting, found]
    rw [nothing, List.length_nil]
    omega
  | some call =>
    have left : result.2.wanting id =
        (yard.floor.place id queued (yard.wanting id)).left := by
      simp [Yard.wanting, found, places.parts.left_of_found found]
    rw [left]
    omega

theorem Waits.bodiesLeft_poll (waits : yard.Waits id concern) :
    (yard.poll id).2.bodiesLeft id ≤ yard.bodiesLeft id := by
  obtain ⟨call, found, -⟩ := waits.underWay
  have wants : yard.wanting id = call.assignments id := by simp [Yard.wanting, found]
  exact (wants ▸ places_poll found : yard.Places id _ (yard.wanting id) _).bodiesLeft_le

/-- A call that has nothing to look at waits for a body. -/
theorem Waits.busy (waits : yard.Waits id concern) (content : yard.isReady id = false) :
    yard.jobs ≠ [] := by
  intro vacant
  obtain ⟨call, found, rfl⟩ := waits.underWay
  have ready := waits.brisk.isReady waits.alone vacant found fun scope same =>
    waits.other scope (congrArg Call.concern same)
  rw [content] at ready
  cases ready

/-! ### Operations that are answered in the end -/

/-- Whether no call is under way. -/
def NobodyWaits (yard : Yard Task) : Prop := ∀ id, yard.calls.get? id = none

/-- An operation is answered, at once or when its call has looked often enough. -/
inductive Serves (yard : Yard Task) (request : Request Task) (reply : Reply) : Yard Task → Prop
  | atOnce (answered : (yard.begin request).2.1 = some reply) :
      Serves yard request reply (yard.begin request).2.2
  | inTime {last : Yard Task} (waits : (yard.begin request).2.1 = none)
      (goes : Goes ⟨yard.callCount⟩ (yard.begin request).2.2 last)
      (answered : (last.poll ⟨yard.callCount⟩).1 = some reply) :
      Serves yard request reply (last.poll ⟨yard.callCount⟩).2

variable {request : Request Task}

theorem Serves.eq_of_begin {reply answer : Reply} {after : Yard Task}
    (serves : Serves yard request reply later)
    (begun : (yard.begin request).2 = (some answer, after)) : reply = answer ∧ later = after := by
  cases serves with
  | atOnce answered =>
    rw [begun] at answered ⊢
    cases answered
    exact ⟨rfl, rfl⟩
  | inTime waits =>
    rw [begun] at waits
    cases waits

/-- What comes of beginning an operation other than to run a batch that is not there. -/
theorem Brisk.polled_begin (brisk : yard.Brisk) (requested : yard.concern? request = some concern) :
    Polled ⟨yard.callCount⟩ concern (yard.prepared request) (yard.begin request).2 :=
  brisk.kept.inOrder.begin brisk.kept.stocked requested

/-- An operation that is not answered at once is the only one that waits. -/
theorem Brisk.waits_begin (brisk : yard.Brisk) (nobody : yard.NobodyWaits)
    (brief : request.IsBrief) (other : ∀ scope, request ≠ .watch scope)
    (unanswered : (yard.begin request).2.1 = none) :
    ∃ concern, yard.concern? request = some concern ∧
      (yard.begin request).2.2.Waits ⟨yard.callCount⟩ concern := by
  cases requested : yard.concern? request with
  | none =>
    obtain ⟨scope, rfl, answered⟩ := begin_of_none requested
    rw [answered] at unanswered
    cases unanswered
  | some concern =>
    have polled := brisk.polled_begin requested
    have own := polled.own
    have later := brisk.begin brief
    refine ⟨concern, rfl, later, fun id apart => ?_, ?_, fun scope same => ?_⟩
    · rw [polled.others id apart, calls_prepared]
      exact nobody id
    · rcases result : (yard.begin request).2 with ⟨answer, after⟩
      rw [result] at unanswered own
      cases unanswered
      obtain ⟨call, found, same, -⟩ := own
      exact ⟨call, found, same⟩
    · subst same
      cases request with
      | watch scope => exact other scope rfl
      | exec scope => simp [concern?] at requested
      | submit | submitTask | drain => cases requested

/-- Once a call is answered nobody waits if nobody else did. -/
theorem nobodyWaits_of_answered {before : Yard Task} {result : Option Reply × Yard Task}
    {reply : Reply} (polled : Polled id concern before result) (answered : result.1 = some reply)
    (alone : ∀ other, other ≠ id → before.calls.get? other = none) : result.2.NobodyWaits := by
  intro other
  have own := polled.own
  by_cases same : other = id
  · rcases result with ⟨answer, after⟩
    cases answered
    exact same ▸ own.2
  · rw [polled.others other same]
    exact alone other same

theorem Serves.brisk {reply : Reply} (serves : Serves yard request reply later)
    (brisk : yard.Brisk) (brief : request.IsBrief) (nobody : yard.NobodyWaits)
    (other : ∀ scope, request ≠ .watch scope) : later.Brisk ∧ later.NobodyWaits := by
  cases serves with
  | atOnce answered =>
    refine ⟨brisk.begin brief, ?_⟩
    cases requested : yard.concern? request with
    | none =>
      obtain ⟨scope, rfl, nothing⟩ := begin_of_none requested
      rw [nothing]
      exact nobody
    | some concern =>
      refine nobodyWaits_of_answered (brisk.polled_begin requested) answered fun id _ => ?_
      rw [calls_prepared]
      exact nobody id
  | inTime unanswered goes answered =>
    obtain ⟨concern, -, waits⟩ := brisk.waits_begin nobody brief other unanswered
    have last := goes.waits waits
    exact ⟨last.brisk.poll _, nobodyWaits_of_answered last.polled answered last.alone⟩

/-- What surrounds the calls stays as it is while a call waits. -/
theorem Goes.surroundings (goes : Goes id first last) (brisk : first.Brisk) :
    last.Brisk ∧ last.surroundings = first.surroundings ∧ last.scopes = first.scopes := by
  induction goes with
  | nothing => exact ⟨brisk, rfl, rfl⟩
  | ran _ ran inductionHypothesis =>
    obtain ⟨before, surroundings, scopes⟩ := inductionHypothesis
    have done := ran.done before.kept
    exact ⟨before.done done, done.surroundings.trans surroundings,
      (done.scopes.unmoved before.going).trans scopes⟩
  | looked _ vain inductionHypothesis =>
    obtain ⟨before, surroundings, scopes⟩ := inductionHypothesis
    exact ⟨before.poll id, (before.kept.surroundings_poll id).trans surroundings,
      ((before.kept.asked_poll id).unmoved before.going).trans scopes⟩

theorem Serves.surroundings {reply : Reply} (serves : Serves yard request reply later)
    (brisk : yard.Brisk) (brief : request.IsBrief) :
    later.surroundings = (yard.prepared request).surroundings ∧ later.scopes = yard.scopes := by
  have surroundings := brisk.kept.surroundings_begin request
  have scopes := (brisk.kept.asked_begin request).unmoved brisk.going
  cases serves with
  | atOnce answered => exact ⟨surroundings, scopes⟩
  | inTime unanswered goes answered =>
    obtain ⟨last, same, alike⟩ := goes.surroundings (brisk.begin brief)
    exact ⟨((last.kept.surroundings_poll _).trans same).trans surroundings,
      (((last.kept.asked_poll _).unmoved last.going).trans alike).trans scopes⟩

/-! ### What is answered -/

/-- Whoever waits for every body to end is told that they have, as long as there is time. -/
theorem Serves.drained {timeout : Duration} {reply : Reply}
    (serves : Serves yard (.drain timeout) reply later) (brisk : yard.Brisk)
    (nobody : yard.NobodyWaits) (ahead : yard.hasPassed (yard.now.after? timeout) = false) :
    reply = .drained (.ok ()) ∧ later.jobs = [] := by
  have looks : ∀ {before : Yard Task} {id : CallId} {deadline : Option Duration},
      before.hasPassed deadline = false → (before.pollDrain id timeout deadline).1 = some reply →
        reply = .drained (.ok ()) ∧ (before.pollDrain id timeout deadline).2.jobs = [] := by
    intro before id deadline inTime answered
    unfold pollDrain at answered ⊢
    by_cases vacant : before.jobs.isEmpty = true
    · rw [if_pos vacant] at answered ⊢
      cases answered
      exact ⟨rfl, List.isEmpty_iff.mp vacant⟩
    · rw [if_neg vacant, if_neg (Bool.eq_false_iff.mp inTime)] at answered
      cases answered
  cases serves with
  | atOnce answered => exact looks ahead answered
  | @inTime last unanswered goes answered =>
    have brief : (Request.drain timeout : Request Task).IsBrief := trivial
    obtain ⟨concern, requested, waits⟩ := brisk.waits_begin nobody brief (by simp) unanswered
    cases requested
    obtain ⟨-, same, -⟩ := goes.surroundings (brisk.begin brief)
    have now : last.now = yard.now := congrArg Surroundings.now
      (same.trans (brisk.kept.surroundings_begin (.drain timeout)))
    obtain ⟨call, found, concern⟩ := (goes.waits waits).underWay
    cases call with
    | drain span deadline =>
      cases concern
      simp only [poll, found] at answered ⊢
      refine looks ?_ answered
      rw [hasPassed, now]
      exact ahead
    | submit | soloQueued | solo | batch | watch => cases concern

/-- The body of a call returns a value, when it is run, or has returned it. -/
structure Owes (yard : Yard Task) (id : CallId) (value : Value) : Prop where
  hired : ∀ job ∈ yard.jobs, job.purpose = .solo id → job.body.finish = .returns value
  call : ∀ call, yard.calls.get? id = some call → call.Owes value

theorem Owes.done {value : Value} (owes : yard.Owes id value) (member : job ∈ yard.jobs)
    (done : Done job yard later) : later.Owes id value where
  hired other listed := by
    rw [done.jobs] at listed
    exact owes.hired other (List.mem_of_mem_filter listed)
  call call found := by
    obtain ⟨returned, returns, calls⟩ := done.calls
    rw [calls] at found
    split at found
    · obtain ⟨former, known, rfl⟩ := Option.map_eq_some_iff.mp found
      have before := owes.call former known
      cases purpose : job.purpose with
      | errand => exact before
      | solo patron =>
        cases former with
        | solo scope reply =>
          cases reply with
          | some output => exact before
          | none =>
            next works =>
            rw [purpose] at works
            cases works
            rw [owes.hired job member purpose] at returns
            cases returns
            rfl
        | submit | soloQueued | batch | drain | watch => exact before
      | member patron task scope => cases former <;> exact before
    · exact owes.call call found

/-- A call that looks in vain for the output of its body is owed it as before. -/
theorem Owes.looked {value : Value} {scope : ScopeId} (owes : yard.Owes id value)
    (waits : yard.Waits id (.solo scope)) (vain : (yard.poll id).1 = none) :
    (yard.poll id).2.Owes id value := by
  obtain ⟨call, found, concern⟩ := waits.underWay
  have promised : ∀ assignment ∈ call.assignments id,
      assignment.body.finish = .returns value := by
    intro assignment member
    have owed := owes.call call found
    cases call with
    | soloQueued scope body =>
      rw [List.mem_singleton.mp member]
      exact owed
    | solo scope reply => cases member
    | submit | batch | drain | watch => cases concern
  have places := places_poll found
  obtain ⟨recruits, jobs, -, accounted, -⟩ :=
    exists_recruits id call.isParked (call.assignments id) yard.floor
  have new : (yard.poll id).2.jobs = yard.jobs ++ recruits := places.parts.jobs.trans jobs
  constructor
  · intro job member own
    rw [new] at member
    rcases List.mem_append.mp member with old | recruited
    · exact owes.hired job old own
    · refine promised job.assignment (accounted.subset ?_)
      exact List.mem_append_left _ (List.mem_append_right _ (List.mem_map_of_mem recruited))
  · intro held kept
    have left := places.parts.left_of_found kept
    obtain ⟨still, content⟩ := waits.looked vain
    cases held with
    | soloQueued scope body =>
      refine promised ⟨.solo id, body⟩ (accounted.subset (List.mem_append_right _ ?_))
      exact left ▸ List.mem_singleton_self _
    | solo scope reply =>
      cases reply with
      | none => trivial
      | some output => simp [isReady, kept, wouldProgress] at content
    | submit | batch | drain | watch => trivial

/-- A call that is answered is answered with what its body returned, as long as the slots are
open. -/
theorem Owes.completed {value : Value} {scope : ScopeId} {reply : Reply}
    (owes : last.Owes id value) (waits : last.Waits id (.solo scope))
    (opened : last.slots.closed = false) (answered : (last.poll id).1 = some reply) :
    reply = .completed (.ok value) := by
  obtain ⟨call, found, concern⟩ := waits.underWay
  have fits := waits.brisk.kept.inOrder.fits id call (by simp) found
  have owed := owes.call call found
  rw [poll, found] at answered
  cases call with
  | soloQueued under body =>
    simp only [pollSoloQueued, Slots.turn, if_true] at answered
    rcases last.slots.askAgain_cases id with ⟨closed, -⟩ | ⟨-, -, told⟩ | ⟨-, -, told⟩
    · rw [opened] at closed
      cases closed
    · obtain ⟨slots, admitted⟩ : ∃ slots, last.slots.askAgain id = (.admitted, slots) := ⟨_, told⟩
      have still : ({ last with slots := slots }.enlist (.solo id) body).ended? under = none :=
        waits.brisk.going under
      simp only [admitted, pollSolo, query_of_none still] at answered
      cases answered
    · have still : ended? { last with slots := last.slots } under = none :=
        waits.brisk.going under
      simp only [told, query_of_none still] at answered
      cases answered
  | solo under reply =>
    cases reply with
    | some output =>
      cases answered
      rw [show output = .ok value from owed]
    | none =>
      simp only [pollSolo, query_of_none (waits.brisk.going under)] at answered
      cases answered
  | submit | batch | drain | watch => cases concern

theorem Goes.owes {value : Value} {scope : ScopeId} (goes : Goes id first last)
    (owes : first.Owes id value) (waits : first.Waits id (.solo scope)) : last.Owes id value := by
  induction goes with
  | nothing => exact owes
  | ran goes ran inductionHypothesis =>
    have done := ran.done (goes.waits waits).brisk.kept
    cases ran with
    | returned journal member returns => exact inductionHypothesis.done member done
  | looked goes vain inductionHypothesis => exact inductionHypothesis.looked (goes.waits waits) vain

/-- A body whose output is wanted is refused at once, or its output comes. -/
theorem Serves.completed {options : Options} {scope : ScopeId} {body : Task} {value : Value}
    {reply : Reply} (serves : Serves yard (.submitTask scope body) reply later)
    (brisk : yard.Brisk) (nobody : yard.NobodyWaits)
    (brief : (Request.submitTask scope body).IsBrief)
    (returns : body.finish = .returns value) (obeys : yard.slots.Obeys options)
    (opened : yard.slots.closed = false) : ∃ turn slots,
      yard.slots.Decides options ⟨yard.callCount⟩ turn slots ∧
        ((∃ error, turn = .refused error ∧ reply = .completed (.error (.submit error))) ∨
          (∀ error, turn ≠ .refused error) ∧ reply = .completed (.ok value)) := by
  obtain ⟨turn, slots, decides, begun⟩ :=
    brisk.kept.begin_submitTask obeys (brisk.going scope) body
  refine ⟨turn, slots, decides, ?_⟩
  cases serves with
  | atOnce answered =>
    rw [begun] at answered
    cases turn with
    | refused error =>
      cases answered
      exact .inl ⟨error, rfl, rfl⟩
    | admitted | queued => cases answered
  | inTime unanswered goes answered =>
    obtain ⟨concern, requested, waits⟩ := brisk.waits_begin nobody brief (by simp) unanswered
    cases requested
    have surroundings := (goes.surroundings (brisk.begin brief)).2.1.trans
      (brisk.kept.surroundings_begin (.submitTask scope body))
    have foreign : ∀ job ∈ yard.jobs, job.purpose ≠ .solo ⟨yard.callCount⟩ :=
      fun job member same => Nat.lt_irrefl _ (brisk.kept.inOrder.patronsKnown job member
        ⟨yard.callCount⟩ (by rw [same]; rfl))
    have owes : (yard.begin (.submitTask scope body)).2.2.Owes ⟨yard.callCount⟩ value := by
      rw [begun] at unanswered ⊢
      cases turn with
      | admitted =>
        refine ⟨fun job member own => ?_, fun call found => ?_⟩
        · rcases List.mem_append.mp member with old | new
          · exact absurd own (foreign job old)
          · rw [List.mem_singleton.mp new]
            exact returns
        · simp only [commissioned, keep, Listing.get?_put, if_true, Option.some.injEq] at found
          exact found ▸ trivial
      | refused error => cases unanswered
      | queued =>
        refine ⟨fun job member own => absurd own (foreign job member), fun call found => ?_⟩
        simp only [commissioned, keep, Listing.get?_put, if_true, Option.some.injEq] at found
        exact found ▸ returns
    have closed : _ = yard.slots.closed := congrArg Surroundings.closed surroundings
    refine .inr ⟨fun error same => ?_,
      (goes.owes owes waits).completed (goes.waits waits) (closed.trans opened) answered⟩
    rw [begun, same] at unanswered
    cases unanswered

end Yard

end Taskyard

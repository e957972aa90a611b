/-
This file says how a call that was told to wait hears that it should look again.
While it waits nobody looks at it; it is told of a few things only: that it got
its slot or that the slots were closed, that a job that worked for it is over,
that its scope was cancelled, that a moment came, that the last job is over.
Which of them it is told of was settled when it was told to wait. The file shows
that no call is ever forgotten: a call that polling would bring further has been
told to look again and has not done so yet.
-/

import Taskyard.Proofs.Order.Bystanders

namespace Taskyard

variable {Body : Type}

/-- Something that happens at one moment and that a call may be told of. -/
inductive Signal where
  /-- The call was handed a slot, or the slots were closed. -/
  | turn (call : CallId)
  /-- A job that worked for the call is over. -/
  | output (call : CallId)
  | cancelled (scope : ScopeId)
  | moment (moment : Duration)
  /-- The last job is over. -/
  | vacancy
deriving DecidableEq, Repr

namespace Yard

/-- What a call that waits for the end of a scope is told of. -/
def endSignals (yard : Yard Body) (scope : ScopeId) : List Signal :=
  .cancelled scope :: (yard.scopes.deadline? scope).toList.map .moment

/-- What a call that waits is told of. -/
def awaited (yard : Yard Body) (id : CallId) : Call Body → List Signal
  | .submit _ => [.turn id]
  | .soloQueued scope _ => .turn id :: yard.endSignals scope
  | .solo scope _ => .output id :: yard.endSignals scope
  | .batch held =>
    (if held.unsubmitted.isEmpty then .output id else .turn id) :: .moment held.deadline ::
      yard.endSignals held.scope
  | .drain _ deadline => .vacancy :: deadline.toList.map .moment
  | .watch scope => yard.endSignals scope

/-- Whether something happens when a yard becomes another. -/
def happens (before later : Yard Body) : Signal → Bool
  | .turn call =>
    (!before.slots.granted.contains call && later.slots.granted.contains call) ||
      (!before.slots.closed && later.slots.closed)
  | .output call => decide ((later.staff call).length < (before.staff call).length)
  | .cancelled scope => !before.scopes.isCancelled scope && later.scopes.isCancelled scope
  | .moment moment => decide (before.now < moment) && decide (moment ≤ later.now)
  | .vacancy => !before.jobs.isEmpty && later.jobs.isEmpty

/-- The calls that are told to look again when a yard becomes another. -/
def told (before later : Yard Body) : List CallId :=
  Listing.keys (before.calls.filter fun entry =>
    (before.awaited entry.1 entry.2).any (happens before later))

end Yard

/-- A yard, and the calls that were told to look again and have not done so yet. -/
structure Attended (Body : Type) where
  yard : Yard Body
  called : List CallId

/-- After an event the calls that it is about are done with, and others may be told to look. -/
def Attended.step (attended : Attended Body) (event : Event Body) : Attended Body where
  yard := attended.yard.step event
  called := (attended.called ++ attended.yard.told (attended.yard.step event)).filter
    fun id => event.call? ≠ some id

/-- The scopes that an event names. -/
def Event.scopes : Event Body → List ScopeId
  | .openScope (.child parent) | .openScope (.childBefore parent _) => [parent]
  | .cancel scope | .query scope | .push scope _ _ | .discard scope
  | .begin (.submitTask scope _) | .begin (.exec scope) | .begin (.watch scope) => [scope]
  | .openScope .root | .openScope (.rootBefore _) | .tick _ | .setTimeout _ | .release
  | .begin (.submit _) | .begin (.drain _) | .poll _ | .drop _ | .start _ | .finish _ _
  | .abandon _ => []

/-- The moment that the clock shows after an event that moves it. -/
def Event.moment? : Event Body → Option Duration
  | .tick moment => some moment
  | _ => none

/-- What can be relied on of any event: the scopes that it names are there. -/
def Event.IsOrderly (event : Event Body) (yard : Yard Body) : Prop :=
  ∀ scope ∈ event.scopes, scope.number ≤ yard.scopes.records.length

instance (event : Event Body) (yard : Yard Body) : Decidable (event.IsOrderly yard) :=
  inferInstanceAs (Decidable (∀ scope ∈ event.scopes, scope.number ≤ yard.scopes.records.length))

namespace Attended

/-- One yard may become another, event by event. -/
inductive Leads (first : Attended Body) : Attended Body → Prop
  | nothing : Leads first first
  | event {last : Attended Body} {event : Event Body} (leads : Leads first last)
      (orderly : event.IsOrderly last.yard) : Leads first (last.step event)

theorem Leads.history {first last : Attended Body} (leads : Leads first last) :
    ∃ history, last.yard = first.yard.after history := by
  induction leads with
  | nothing => exact ⟨[], rfl⟩
  | @event last event leads orderly inductionHypothesis =>
    obtain ⟨history, same⟩ := inductionHypothesis
    exact ⟨history ++ [event], by rw [Yard.after_append, ← same]; rfl⟩

def after (attended : Attended Body) (history : List (Event Body)) : Attended Body :=
  history.foldl step attended

/-- Whether everything that is to happen can be relied on when it does. -/
def Orderly (attended : Attended Body) : List (Event Body) → Prop
  | [] => True
  | event :: rest => event.IsOrderly attended.yard ∧ Orderly (attended.step event) rest

instance decidableOrderly : ∀ (attended : Attended Body) (history : List (Event Body)),
    Decidable (attended.Orderly history)
  | _, [] => inferInstanceAs (Decidable True)
  | attended, event :: rest =>
    have := decidableOrderly (attended.step event) rest
    inferInstanceAs (Decidable (event.IsOrderly attended.yard ∧ (attended.step event).Orderly rest))

theorem Leads.after {first last : Attended Body} (leads : Leads first last)
    {history : List (Event Body)} (orderly : last.Orderly history) :
    Leads first (last.after history) := by
  induction history generalizing last with
  | nil => exact leads
  | cons event rest inductionHypothesis =>
    exact inductionHypothesis (.event leads orderly.1) orderly.2

end Attended

/-- The scope under which a call waits, if it does. -/
def Concern.scope? : Concern → Option ScopeId
  | .solo scope | .batch scope _ _ _ | .watch scope => some scope
  | .submit | .drain _ _ => none

namespace Yard

variable {before later : Yard Body} {id : CallId}

/-! ### What a call was told of -/

/-- The end of a scope does not come about without one of its signals. -/
theorem happens_of_ended {scope : ScopeId} (honest : later.scopes.Honest later.now)
    (deadline : later.scopes.deadline? scope = before.scopes.deadline? scope)
    (going : before.ended? scope = none) (ended : (later.ended? scope).isSome) :
    (before.endSignals scope).any (happens before later) = true := by
  obtain ⟨onTime, uncancelled⟩ := Scopes.going going
  unfold endSignals
  rcases (honest.ended_iff scope).mp ended with overdue | cancelled
  · rw [Scopes.isOverdue, deadline] at overdue
    cases limit : before.scopes.deadline? scope with
    | none => simp [limit] at overdue
    | some moment =>
      simp only [limit, decide_eq_true_eq] at overdue
      have ahead : before.now < moment := by
        simpa [Scopes.isOverdue, limit, Duration.not_le] using onTime
      simp [happens, ahead, overdue]
  · simp [happens, cancelled, uncancelled]

theorem happens_of_news (stale : before.slots.hasNews id = false)
    (news : later.slots.hasNews id = true) : happens before later (.turn id) = true := by
  simp only [Slots.hasNews, Bool.or_eq_false_iff, Bool.or_eq_true] at stale news
  obtain ⟨opened, unhanded⟩ := stale
  simp only [happens, opened, unhanded, Bool.not_false, Bool.true_and, Bool.or_eq_true]
  exact news.symm

theorem happens_of_over {moment : Duration} (ahead : ¬moment ≤ before.now)
    (passed : moment ≤ later.now) : happens before later (.moment moment) = true := by
  simp [happens, passed, Duration.not_le.mp ahead]

theorem isUnmanned_of_staff (same : later.staff id = before.staff id) :
    later.isUnmanned id = before.isUnmanned id := by
  rw [Bool.eq_iff_iff, isUnmanned_iff, isUnmanned_iff, same]

/-- What has come in for a call, or that nothing more will, it was told of. -/
theorem happens_of_output {held call : Batch Body}
    (former : before.calls.get? id = some (.batch held))
    (now : later.calls.get? id = some (.batch call)) (bystander : Bystander id before later)
    (stale : (!held.inbox.isEmpty || before.isUnmanned id) = false)
    (news : (!call.inbox.isEmpty || later.isUnmanned id) = true) :
    happens before later (.output id) = true := by
  cases bystander with
  | served purpose output heard staff => simp [happens, staff]
  | spared same staff =>
    rw [same, former, Option.some.injEq, Call.batch.injEq] at now
    rw [isUnmanned_of_staff staff, ← now, stale] at news
    cases news

/-- A batch that was told to wait and can go on was told of what lets it. -/
theorem any_awaited_batch {held call : Batch Body}
    (honest : later.scopes.Honest later.now)
    (deadline : later.scopes.deadline? held.scope = before.scopes.deadline? held.scope)
    (former : before.calls.get? id = some (.batch held))
    (now : later.calls.get? id = some (.batch call)) (bystander : Bystander id before later)
    (same : call.unsubmitted = held.unsubmitted ∧ call.deadline = held.deadline ∧
      call.scope = held.scope)
    (content : before.wouldProgress id (.batch held) = false)
    (progress : later.wouldProgress id (.batch call) = true) :
    (before.awaited id (.batch held)).any (happens before later) = true := by
  obtain ⟨unsubmitted, limit, scope⟩ := same
  simp only [wouldProgress, Bool.or_eq_false_iff, Bool.or_eq_true, decide_eq_true_eq,
    decide_eq_false_iff_not, unsubmitted, limit, scope, Option.isSome_eq_false_iff,
    Option.isNone_iff_eq_none] at content progress
  obtain ⟨⟨stale, ahead⟩, going⟩ := content
  simp only [awaited, List.any_cons, Bool.or_eq_true]
  rcases progress with (news | passed) | ended
  · left
    cases submitted : held.unsubmitted.isEmpty with
    | true =>
      simp only [submitted, if_true] at stale news
      simpa using happens_of_output former now bystander stale (by simpa using news)
    | false =>
      simp only [submitted, Bool.false_eq_true, if_false] at stale news
      simpa using happens_of_news stale news
  · exact .inr (.inl (happens_of_over ahead passed))
  · exact .inr (.inr (happens_of_ended honest deadline going ended))

/-- Of a batch, only what came in changes when a job that worked for it is over. -/
theorem hear_batch (held : Batch Body) (purpose : Purpose) (output : Output) : ∃ inbox,
    (Call.batch held).hear purpose output = .batch { held with inbox := inbox } := by
  cases purpose <;> exact ⟨_, rfl⟩

/-- Of a call that keeps its jobs: what has just begun to bring it further it is told of. -/
theorem any_awaited_of_spared {call : Call Body} (honest : later.scopes.Honest later.now)
    (deadline : ∀ scope, call.concern.scope? = some scope →
      later.scopes.deadline? scope = before.scopes.deadline? scope)
    (former : before.calls.get? id = some call)
    (same : later.calls.get? id = before.calls.get? id)
    (staff : later.staff id = before.staff id)
    (content : before.wouldProgress id call = false)
    (progress : later.wouldProgress id call = true) :
    (before.awaited id call).any (happens before later) = true := by
  cases call with
  | submit body =>
    simp [awaited, happens_of_news content progress]
  | soloQueued scope body =>
    simp only [wouldProgress, Bool.or_eq_false_iff, Bool.or_eq_true,
      Option.isSome_eq_false_iff, Option.isNone_iff_eq_none] at content progress
    rcases progress with news | ended
    · simp [awaited, happens_of_news content.1 news]
    · simp [awaited, happens_of_ended honest (deadline scope rfl) content.2 ended]
  | solo scope reply =>
    simp only [wouldProgress, Bool.or_eq_false_iff, Bool.or_eq_true,
      Option.isSome_eq_false_iff, Option.isNone_iff_eq_none] at content progress
    obtain ⟨unanswered, going⟩ := content
    have ended := progress.resolve_left (by simp [unanswered])
    simp [awaited, happens_of_ended honest (deadline scope rfl) going ended]
  | batch held =>
    exact any_awaited_batch honest (deadline _ rfl) former (same.trans former)
      (.spared same staff) ⟨rfl, rfl, rfl⟩ content progress
  | drain timeout last =>
    simp only [wouldProgress, Bool.or_eq_false_iff, Bool.or_eq_true] at content progress
    rcases progress with vacant | passed
    · simp [awaited, happens, content.1, vacant]
    · obtain ⟨moment, rfl, past⟩ := hasPassed_iff.mp passed
      have ahead : ¬moment ≤ before.now := of_decide_eq_false content.2
      simp [awaited, happens_of_over ahead past]
  | watch scope =>
    simp only [wouldProgress, Option.isSome_eq_false_iff, Option.isNone_iff_eq_none]
      at content progress
    exact happens_of_ended honest (deadline scope rfl) content progress

/-- What has just begun to bring a call further is something that the call is told of. -/
theorem any_awaited_of_progress {held call : Call Body} (inOrder : before.InOrder)
    (honest : later.scopes.Honest later.now)
    (deadline : ∀ scope, held.concern.scope? = some scope →
      later.scopes.deadline? scope = before.scopes.deadline? scope)
    (former : before.calls.get? id = some held) (now : later.calls.get? id = some call)
    (bystander : Bystander id before later) (content : before.wouldProgress id held = false)
    (progress : later.wouldProgress id call = true) :
    (before.awaited id held).any (happens before later) = true := by
  have fits := inOrder.fits id held (by simp) former
  cases bystander with
  | spared same staff =>
    rw [same, former, Option.some.injEq] at now
    subst now
    exact any_awaited_of_spared honest deadline former same staff content progress
  | served purpose output heard staff =>
    cases held with
    | batch held =>
      obtain ⟨inbox, heardSo⟩ := hear_batch held purpose output
      have same : call = .batch { held with inbox := inbox } := by
        rw [heard, former, Option.map_some, heardSo, Option.some.injEq] at now
        exact now.symm
      subst same
      exact any_awaited_batch honest (deadline _ rfl) former now (.served _ _ heard staff)
        ⟨rfl, rfl, rfl⟩ content progress
    | solo scope reply => simp [awaited, happens, staff]
    -- Nobody else has a job that could have ended.
    | submit body => simp [show before.staff id = [] from fits] at staff
    | soloQueued scope body => simp [show before.staff id = [] from fits] at staff
    | drain timeout deadline => simp [show before.staff id = [] from fits] at staff
    | watch scope => simp [show before.staff id = [] from fits] at staff

end Yard

end Taskyard

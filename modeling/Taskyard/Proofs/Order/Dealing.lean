/-
This file says what it is to deal with a call. Whoever deals with one uses the
slots, gives the call its jobs and asks why a scope has ended; the clock, the
backlog and every other call are left alone. In the end either the call is gone
and its answer is one that it waited for, or it is kept, and polling it again at
once would be in vain.
-/

import Taskyard.Proofs.Order.Books
import Taskyard.Proofs.Scope

namespace Taskyard

variable {Body : Type}

/-- What never changes of a call while it is under way. -/
inductive Concern where
  | submit
  | solo (scope : ScopeId)
  | batch (scope : ScopeId) (timeout deadline : Duration) (tasks : List TaskId)
  | drain (timeout : Duration) (deadline : Option Duration)
  | watch (scope : ScopeId)

def Call.concern : Call Body → Concern
  | .submit _ => .submit
  | .soloQueued scope _ | .solo scope _ => .solo scope
  | .batch held => .batch held.scope held.timeout held.deadline held.tasks
  | .drain timeout deadline => .drain timeout deadline
  | .watch scope => .watch scope

/-- Whether a reply is one that a call waits for. The outcome of a batch is right in itself and has
an entry for every task. -/
def Concern.IsMetBy : Concern → Reply → Prop
  | .submit, .submitted _ | .solo _, .completed _ | .drain _ _, .drained _ | .watch _, .ended _ =>
    True
  | .batch _ _ _ tasks, .executed (some outcome) => outcome.Sound ∧ outcome.tasks.Perm tasks
  | _, _ => False

/-- Whoever waits for a batch is answered with an outcome of it. -/
theorem Concern.IsMetBy.outcome {scope : ScopeId} {timeout deadline : Duration}
    {tasks : List TaskId} {reply : Reply}
    (met : (Concern.batch scope timeout deadline tasks).IsMetBy reply) :
    ∃ outcome, reply = .executed (some outcome) ∧ outcome.Sound ∧ outcome.tasks.Perm tasks := by
  cases reply with
  | executed outcome =>
    cases outcome with
    | none => exact met.elim
    | some outcome => exact ⟨outcome, rfl, met⟩
  | submitted _ | completed _ | drained _ | ended _ => exact met.elim

namespace Yard

/-- What dealing with a call leaves alone. -/
structure Surroundings (Body : Type) where
  now : Duration
  options : Options
  backlog : Backlog Body
  nextTimeout : Option Duration
  taskCount : Nat
  callCount : Nat
  capacity : Nat
  closed : Bool

def surroundings (yard : Yard Body) : Surroundings Body :=
  ⟨yard.now, yard.options, yard.backlog, yard.nextTimeout, yard.taskCount, yard.callCount,
    yard.slots.capacity, yard.slots.closed⟩

/-- A yard while a call is dealt with, compared with the yard before. -/
structure Dealing (id : CallId) (before yard : Yard Body) : Prop where
  inOrder : yard.InOrderBut (some id)
  calls : yard.calls = before.calls
  foreign : ∀ other, other ≠ id → yard.staff other = before.staff other
  surroundings : yard.surroundings = before.surroundings
  scopes : Scopes.Asked before.now before.scopes yard.scopes

/-- How a call is left: answered and gone, or kept with nothing new to hear. -/
def Leaves (id : CallId) (concern : Concern) : Option Reply × Yard Body → Prop
  | (some reply, yard) => concern.IsMetBy reply ∧ yard.calls.get? id = none
  | (none, yard) => ∃ call, yard.calls.get? id = some call ∧ call.concern = concern ∧
    yard.wouldProgress id call = false

/-- What comes of a poll, compared with the yard before. -/
structure Polled (id : CallId) (concern : Concern) (before : Yard Body)
    (result : Option Reply × Yard Body) : Prop where
  inOrder : result.2.InOrder
  others : ∀ other, other ≠ id → result.2.calls.get? other = before.calls.get? other
  foreign : ∀ other, other ≠ id → result.2.staff other = before.staff other
  surroundings : result.2.surroundings = before.surroundings
  scopes : Scopes.Asked before.now before.scopes result.2.scopes
  own : Leaves id concern result

namespace Polled

variable {id : CallId} {concern : Concern} {before : Yard Body} {result : Option Reply × Yard Body}

/-- An answer is one that the call waited for. -/
theorem met (polled : Polled id concern before result) {reply : Reply}
    (answered : result.1 = some reply) : concern.IsMetBy reply := by
  have own := polled.own
  rcases result with ⟨answer, yard⟩
  cases answered
  exact own.1

/-- A call that is under way after a poll was not answered, is the call that it was, and would hear
nothing new. -/
theorem waits (polled : Polled id concern before result) {call : Call Body}
    (found : result.2.calls.get? id = some call) :
    result.1 = none ∧ call.concern = concern ∧ result.2.wouldProgress id call = false := by
  have own := polled.own
  rcases result with ⟨answer, yard⟩
  cases answer with
  | some reply => simp [own.2] at found
  | none =>
    obtain ⟨held, kept, same, content⟩ := own
    rw [kept, Option.some.injEq] at found
    exact ⟨rfl, found ▸ same, found ▸ content⟩

end Polled

namespace Dealing

variable {id : CallId} {before yard : Yard Body}

/-! ### Going on -/

theorem start (inOrder : yard.InOrderBut (some id)) : yard.Dealing id yard :=
  ⟨inOrder, rfl, fun _ _ => rfl, rfl, .nothing⟩

theorem now (dealing : before.Dealing id yard) : yard.now = before.now :=
  congrArg Surroundings.now dealing.surroundings

/-- A call that was refused a slot, or told to wait. -/
theorem told {turn : Turn} {slots : Slots} (dealing : before.Dealing id yard)
    (heard : yard.slots.Heard id turn slots) (outside : turn ≠ .admitted) :
    before.Dealing id { yard with slots := slots } :=
  { dealing with
    inOrder := dealing.inOrder.told heard outside
    surroundings := by
      rw [← dealing.surroundings, Yard.surroundings, heard.capacity, heard.closed]
      rfl }

/-- A call that was given a slot for a body, which runs for it or for nobody. -/
theorem enlist {slots : Slots} {purpose : Purpose} (dealing : before.Dealing id yard)
    (heard : yard.slots.Heard id .admitted slots)
    (own : ∀ other, purpose.patron? = some other → other = id) (body : Body) :
    before.Dealing id ({ yard with slots := slots }.enlist purpose body) where
  inOrder := dealing.inOrder.enlist heard own body
  calls := dealing.calls
  foreign other apart := by
    rw [staff_enlist_foreign fun patron => apart (own other patron)]
    exact dealing.foreign other apart
  surroundings := by
    rw [← dealing.surroundings, Yard.surroundings, Yard.enlist, heard.capacity, heard.closed]
    rfl
  scopes := dealing.scopes

/-- Somebody asks why a scope has ended that has. -/
theorem settled {scope : ScopeId} {reason : EndReason} (dealing : before.Dealing id yard)
    (ended : yard.ended? scope = some reason) :
    before.Dealing id { yard with scopes := yard.scopes.settle scope reason } :=
  { dealing with
    inOrder := dealing.inOrder.of_floor rfl
    surroundings := dealing.surroundings
    scopes := dealing.scopes.settled (dealing.now ▸ ended) }

theorem journalled (dealing : before.Dealing id yard) (journal : List Note) :
    before.Dealing id { yard with journal := journal } :=
  { dealing with
    inOrder := dealing.inOrder.of_floor rfl
    surroundings := dealing.surroundings }

theorem noted (dealing : before.Dealing id yard) (note : Note) :
    before.Dealing id (yard.note note) :=
  dealing.journalled _

/-! ### Being done -/

/-- The call is answered and gone. -/
theorem answer {concern : Concern} {reply : Reply} (dealing : before.Dealing id yard)
    (met : concern.IsMetBy reply) : Polled id concern before (some reply, yard.drop id) where
  inOrder := dealing.inOrder.drop
  others other apart := by
    simp only [Yard.drop, Listing.get?_remove, if_neg apart, dealing.calls]
  foreign := dealing.foreign
  surroundings := by
    obtain ⟨capacity, closed, -⟩ := yard.slots.withdraw_frame id
    rw [← dealing.surroundings, Yard.surroundings, Yard.drop, capacity, closed]
    rfl
  scopes := dealing.scopes
  own := ⟨met, by simp [Yard.drop, Listing.get?_remove]⟩

/-- A call that was never kept is answered. -/
theorem answerUnkept {concern : Concern} {reply : Reply} (dealing : before.Dealing id yard)
    (met : concern.IsMetBy reply) (outside : id ∉ yard.slots.parked)
    (absent : before.calls.get? id = none) : Polled id concern before (some reply, yard) where
  inOrder := dealing.inOrder.unkept outside (dealing.calls ▸ absent)
  others other _ := by rw [dealing.calls]
  foreign := dealing.foreign
  surroundings := dealing.surroundings
  scopes := dealing.scopes
  own := ⟨met, dealing.calls ▸ absent⟩

/-- The call is kept. -/
theorem wait (dealing : before.Dealing id yard) (call : Call Body)
    (parked : id ∈ yard.slots.parked ↔ call.isParked = true) (fits : call.Fits id (yard.staff id))
    (content : yard.wouldProgress id call = false) :
    Polled id call.concern before (none, yard.keep id call) where
  inOrder := dealing.inOrder.keep parked fits
  others other apart := by
    simp only [Yard.keep, Listing.get?_put, if_neg apart, dealing.calls]
  foreign := dealing.foreign
  surroundings := dealing.surroundings
  scopes := dealing.scopes
  own := ⟨call, by simp [Yard.keep, Listing.get?_put], rfl, content⟩

end Dealing

end Yard

end Taskyard

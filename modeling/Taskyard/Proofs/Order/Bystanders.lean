/-
This file says what an event does to a call that it is not about. Either nothing,
or the end of a job that worked for the call; in both cases the call is the one
that it was. What never changes of a call can therefore be relied on, whatever
happens, for as long as the call is under way.
-/

import Taskyard.Proofs.Order.Events

namespace Taskyard

variable {Body : Type}

/-- The call that an event is about. -/
def Event.call? : Event Body → Option CallId
  | .poll id | .drop id => some id
  | .tick _ | .openScope _ | .cancel _ | .query _ | .push _ _ _ | .discard _ | .setTimeout _
  | .release | .begin _ | .start _ | .finish _ _ | .abandon _ => none

namespace Call

/-- A call without what it was told of the ends of its jobs. -/
def unheard : Call Body → Call Body
  | .solo scope _ => .solo scope none
  | .batch held => .batch { held with inbox := [] }
  | .submit body => .submit body
  | .soloQueued scope body => .soloQueued scope body
  | .drain timeout deadline => .drain timeout deadline
  | .watch scope => .watch scope

theorem unheard_hear (purpose : Purpose) (output : Output) (call : Call Body) :
    (call.hear purpose output).unheard = call.unheard := by
  unfold hear answer receive
  repeat' split
  all_goals rfl

/-- A call that is a batch but for what it was told is that batch. -/
theorem eq_batch_of_unheard {call : Call Body} {held : Batch Body}
    (same : call.unheard = (Call.batch held).unheard) :
    ∃ inbox, call = .batch { held with inbox := inbox } := by
  cases call with
  | batch other =>
    obtain ⟨⟩ := other
    cases same
    exact ⟨_, rfl⟩
  | _ => cases same

end Call

namespace Yard

variable {yard before later : Yard Body} {id : CallId}

/-- A call and its jobs, before and after an event that is not about the call. -/
inductive Bystander (id : CallId) (before after : Yard Body) : Prop
  | spared (call : after.calls.get? id = before.calls.get? id)
      (staff : after.staff id = before.staff id)
  | served (purpose : Purpose) (output : Output)
      (call : after.calls.get? id = (before.calls.get? id).map (Call.hear purpose output))
      (staff : (after.staff id).length < (before.staff id).length)

theorem Bystander.refl (id : CallId) (yard : Yard Body) : Bystander id yard yard := .spared rfl rfl

theorem Bystander.concern (bystander : Bystander id before later) :
    (later.calls.get? id).map Call.concern = (before.calls.get? id).map Call.concern := by
  cases bystander with
  | spared call staff => rw [call]
  | served purpose output call staff =>
    rw [call, Option.map_map]
    congr 1
    funext held
    exact Call.concern_hear purpose output held

theorem Polled.bystander {concern : Concern} {busy : CallId} {result : Option Reply × Yard Body}
    (polled : Polled busy concern before result) (apart : id ≠ busy) :
    Bystander id before result.2 :=
  .spared (polled.others id apart) (polled.foreign id apart)

theorem Retired.bystander {job : Job Body} {output : Output}
    (retired : Retired job output before later) (id : CallId) : Bystander id before later := by
  obtain ⟨older, younger, jobs, rest⟩ := retired.jobs
  have call := retired.calls id
  by_cases patron : job.purpose.patron? = some id
  · rw [if_pos patron] at call
    refine .served job.purpose output call ?_
    simp [staff, jobs, rest, worksFor_iff.mpr patron]
  · rw [if_neg patron] at call
    have idle : worksFor id job = false := Bool.eq_false_iff.mpr fun works =>
      patron (worksFor_iff.mp works)
    refine .spared call ?_
    simp [staff, jobs, rest, idle]

theorem Relieved.bystander (relieved : Relieved before later) (id : CallId) :
    Bystander id before later := by
  obtain rfl | ⟨job, output, retired⟩ := relieved
  · exact .refl id _
  · exact retired.bystander id

theorem Kept.bystander_begin (kept : yard.Kept) (request : Request Body)
    (known : id.serial < yard.callCount) : Bystander id yard (yard.begin request).2.2 := by
  have apart : id ≠ ⟨yard.callCount⟩ := fun same => by simp [same] at known
  cases concern : yard.concern? request with
  | some concern =>
    have polled := kept.inOrder.begin kept.stocked concern
    exact .spared ((polled.others id apart).trans (by rw [calls_prepared]))
      ((polled.foreign id apart).trans (staff_prepared request id))
  | none =>
    obtain ⟨scope, rfl, answered⟩ := begin_of_none concern
    rw [answered]
    exact .spared rfl rfl

theorem Kept.bystander_poll (kept : yard.Kept) {busy : CallId} (apart : id ≠ busy) :
    Bystander id yard (yard.poll busy).2 := by
  cases found : yard.calls.get? busy with
  | none =>
    rw [poll_of_absent found]
    exact .refl id yard
  | some call => exact (kept.inOrder.poll found).bystander apart

/-- An event that is not about a call does nothing to it, or ends a job that worked for it. -/
theorem Kept.bystander (kept : yard.Kept) {event : Event Body} (known : id.serial < yard.callCount)
    (apart : event.call? ≠ some id) : Bystander id yard (yard.step event) := by
  cases event with
  | tick moment =>
    obtain ⟨now, -, moved⟩ := advanceTo_eq yard moment
    rw [Yard.step, moved]
    exact .spared rfl rfl
  | push scope label body =>
    obtain ⟨scopes, backlog, taskCount, journal, -, pushed⟩ := push_eq yard scope label body
    simp only [Yard.step, pushed]
    exact .spared rfl rfl
  | begin request => exact kept.bystander_begin request known
  | poll busy => exact kept.bystander_poll fun same => apart (congrArg some same.symm)
  | drop other =>
    have different : id ≠ other := fun same => apart (congrArg some same.symm)
    exact .spared (by simp [Yard.step, drop, Listing.get?_remove, different]) rfl
  | start job => exact .spared rfl (staff_startJob yard job id)
  | finish job ending => exact (kept.inOrder.finishJob job ending).bystander id
  | abandon job => exact (kept.inOrder.abandonJob job).bystander id
  | openScope | cancel | query | discard | setTimeout | release => exact .spared rfl rfl

/-- What a call is told of the end of a job is all that changes of it. -/
theorem Bystander.unheard (bystander : Bystander id before later) :
    (later.calls.get? id).map Call.unheard = (before.calls.get? id).map Call.unheard := by
  cases bystander with
  | spared call staff => rw [call]
  | served purpose output call staff =>
    rw [call, Option.map_map]
    congr 1
    funext held
    exact Call.unheard_hear purpose output held

/-! ### What never changes of a call -/

/-- A call that is under way after an event was under way before it, and is the same. -/
theorem Kept.concern_step (kept : yard.Kept) {event : Event Body} {call : Call Body}
    (known : id.serial < yard.callCount) (found : (yard.step event).calls.get? id = some call) :
    ∃ former, yard.calls.get? id = some former ∧ former.concern = call.concern := by
  by_cases apart : event.call? = some id
  · cases event with
    | poll busy =>
      cases apart
      cases underWay : yard.calls.get? id with
      | none => simp [Yard.step, poll_of_absent underWay, underWay] at found
      | some former =>
        exact ⟨former, rfl, ((kept.inOrder.poll underWay).waits found).2.1.symm⟩
    | drop other =>
      cases apart
      simp [Yard.step, drop, Listing.get?_remove] at found
    | _ => cases apart
  · have same := (kept.bystander known apart).concern
    rw [found] at same
    obtain ⟨former, underWay, concern⟩ := Option.map_eq_some_iff.mp same.symm
    exact ⟨former, underWay, concern⟩

theorem Kept.callCount_begin (kept : yard.Kept) (request : Request Body) :
    (yard.begin request).2.2.callCount = yard.callCount + 1 := by
  refine (congrArg Surroundings.callCount (kept.surroundings_begin request)).trans ?_
  cases request <;> rfl

/-- The number of an operation is taken once it has begun. -/
theorem Kept.known_begin (kept : yard.Kept) (request : Request Body) :
    yard.callCount < (yard.begin request).2.2.callCount :=
  kept.callCount_begin request ▸ Nat.lt_succ_self yard.callCount

/-- Only an operation that begins is given a number. -/
theorem Kept.callCount_step (kept : yard.Kept) (event : Event Body) :
    (yard.step event).callCount = yard.callCount ∨
      ∃ request, event = .begin request ∧ (yard.step event).callCount = yard.callCount + 1 := by
  cases event with
  | begin request => exact .inr ⟨request, rfl, kept.callCount_begin request⟩
  | tick moment =>
    obtain ⟨now, -, moved⟩ := advanceTo_eq yard moment
    exact .inl (by rw [Yard.step, moved])
  | push scope label body =>
    obtain ⟨scopes, backlog, taskCount, journal, -, pushed⟩ := push_eq yard scope label body
    exact .inl (by rw [Yard.step, pushed])
  | poll call => exact .inl (congrArg Surroundings.callCount (kept.surroundings_poll call))
  | finish job ending =>
    exact .inl (congrArg Surroundings.callCount (kept.inOrder.finishJob job ending).surroundings)
  | abandon job =>
    exact .inl (congrArg Surroundings.callCount (kept.inOrder.abandonJob job).surroundings)
  | openScope | cancel | query | discard | setTimeout | release | drop | start => exact .inl rfl

theorem Kept.callCount_le (kept : yard.Kept) (event : Event Body) :
    yard.callCount ≤ (yard.step event).callCount := by
  rcases kept.callCount_step event with same | ⟨_, -, more⟩ <;> omega

/-- A call that is under way after an event was numbered before it, or has just begun. -/
theorem Kept.origin (kept : yard.Kept) {event : Event Body} {call : Call Body}
    (found : (yard.step event).calls.get? id = some call) : id.serial < yard.callCount ∨
      ∃ request, event = .begin request ∧ id = ⟨yard.callCount⟩ := by
  have known := (kept.step event).inOrder.numbered found
  rcases kept.callCount_step event with same | ⟨request, rfl, more⟩
  · exact .inl (same ▸ known)
  · rw [more] at known
    rcases Nat.lt_succ_iff_lt_or_eq.mp known with before | last
    · exact .inl before
    · exact .inr ⟨request, rfl, CallId.ext last⟩

/-- A call that has just begun and was told to wait is what its request made it, and would hear
nothing new. -/
theorem Kept.begun (kept : yard.Kept) {request : Request Body} {call : Call Body}
    (found : (yard.begin request).2.2.calls.get? ⟨yard.callCount⟩ = some call) :
    yard.concern? request = some call.concern ∧
      (yard.begin request).2.2.wouldProgress ⟨yard.callCount⟩ call = false := by
  cases requested : yard.concern? request with
  | some concern =>
    obtain ⟨-, same, content⟩ := (kept.inOrder.begin kept.stocked requested).waits found
    exact ⟨congrArg some same.symm, content⟩
  | none =>
    obtain ⟨scope, rfl, answered⟩ := begin_of_none requested
    obtain ⟨-, -, absent⟩ := kept.inOrder.fresh
    rw [answered] at found
    simp [Yard.note, calls_prepared, absent] at found

theorem Kept.after (kept : yard.Kept) (history : List (Event Body)) :
    (yard.after history).Kept := by
  induction history generalizing yard with
  | nil => exact kept
  | cons event history inductionHypothesis => exact inductionHypothesis (kept.step event)

theorem Kept.callCount_le_after (kept : yard.Kept) (history : List (Event Body)) :
    yard.callCount ≤ (yard.after history).callCount := by
  induction history generalizing yard with
  | nil => exact Nat.le_refl _
  | cons event history inductionHypothesis =>
    exact Nat.le_trans (kept.callCount_le event) (inductionHypothesis (kept.step event))

/-- A call that is under way after a history was under way before it, and is the same. -/
theorem Kept.concern_after (kept : yard.Kept) {history : List (Event Body)} {call : Call Body}
    (known : id.serial < yard.callCount) (found : (yard.after history).calls.get? id = some call) :
    ∃ former, yard.calls.get? id = some former ∧ former.concern = call.concern := by
  induction history generalizing yard with
  | nil => exact ⟨call, found, rfl⟩
  | cons event history inductionHypothesis =>
    obtain ⟨between, underWay, same⟩ := inductionHypothesis (kept.step event)
      (Nat.lt_of_lt_of_le known (kept.callCount_le event)) found
    obtain ⟨former, before, concern⟩ := kept.concern_step known underWay
    exact ⟨former, before, concern.trans same⟩

/-- A call that nothing is about stays as it is, but for what it is told of the ends of its jobs. -/
theorem Kept.unheard_after (kept : yard.Kept) {history : List (Event Body)}
    (known : id.serial < yard.callCount) (apart : ∀ event ∈ history, event.call? ≠ some id) :
    ((yard.after history).calls.get? id).map Call.unheard =
      (yard.calls.get? id).map Call.unheard := by
  induction history generalizing yard with
  | nil => rfl
  | cons event history inductionHypothesis =>
    obtain ⟨first, rest⟩ := List.forall_mem_cons.mp apart
    exact (inductionHypothesis (kept.step event)
      (Nat.lt_of_lt_of_le known (kept.callCount_le event)) rest).trans
      (kept.bystander known first).unheard

/-- A call that was told to wait is what its request made it for as long as it is under way. -/
theorem Kept.begun_after (kept : yard.Kept) {request : Request Body} {later : List (Event Body)}
    {call : Call Body}
    (found : ((yard.begin request).2.2.after later).calls.get? (yard.begin request).1 = some call) :
    yard.concern? request = some call.concern := by
  obtain ⟨former, before, same⟩ :=
    (kept.begin request).concern_after (kept.known_begin request) found
  exact same ▸ (kept.begun before).1

end Yard

end Taskyard

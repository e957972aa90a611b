/-
This file shows that nobody waits in vain. When every call that was told to look
again has done so and is still under way, it has reason to be: who waits for a
slot does so because every slot is taken and the slots are open, who waits for a
body does so because the body runs, and nobody waits beyond a timeout or the end
of a scope.
-/

import Taskyard.Proofs.Waking

namespace Taskyard

variable {Body : Type}

namespace Yard

variable {yard : Yard Body} {id : CallId}

/-- The scope under which a call waits is one that its request named. -/
theorem mem_scopes_of_concern {request : Request Body} {concern : Concern} {scope : ScopeId}
    (requested : yard.concern? request = some concern) (under : concern.scope? = some scope) :
    scope ∈ (Event.begin request).scopes := by
  cases request with
  | exec named =>
    obtain ⟨entries, -, rfl⟩ := Option.map_eq_some_iff.mp requested
    cases under
    exact List.mem_singleton_self _
  | submit body => cases requested; cases under
  | submitTask named body => cases requested; cases under; exact List.mem_singleton_self _
  | drain timeout => cases requested; cases under
  | watch named => cases requested; cases under; exact List.mem_singleton_self _

end Yard

namespace Attended

variable {attended : Attended Body}

/-- What holds of a yard whose calls are told of news. -/
structure Sound (attended : Attended Body) : Prop where
  kept : attended.yard.Kept
  honest : attended.yard.scopes.Honest attended.yard.now
  clock : attended.yard.now.isShown = true
  known : ∀ id call scope, attended.yard.calls.get? id = some call →
    call.concern.scope? = some scope → attended.yard.scopes.Knows scope
  /-- Whoever can be brought further was told to look again. -/
  awake : ∀ id call, attended.yard.calls.get? id = some call →
    attended.yard.wouldProgress id call = true → id ∈ attended.called

theorem sound_openNoted? {options : Options} {start : Yard Body}
    (opened : Yard.openNoted? options = .ok start) : Sound ⟨start, []⟩ where
  kept := (Yard.kept_openNoted? opened).1
  honest := by
    obtain ⟨slots, -, rfl⟩ := Yard.openNoted?_eq opened
    intro scope reason written
    cases written
  clock := Yard.isShown_of_opened opened
  known := by
    obtain ⟨slots, -, rfl⟩ := Yard.openNoted?_eq opened
    intro id call scope found
    cases found
  awake := by
    obtain ⟨slots, -, rfl⟩ := Yard.openNoted?_eq opened
    intro id call found
    cases found

/-- A call that has just been polled and is still under way would hear nothing new. -/
theorem Sound.content_of_about (sound : attended.Sound) {event : Event Body} {id : CallId}
    {call : Call Body} (about : event.call? = some id)
    (found : (attended.yard.step event).calls.get? id = some call) :
    (attended.yard.step event).wouldProgress id call = false := by
  cases event with
  | poll other =>
    cases about
    cases before : attended.yard.calls.get? id with
    | none => simp [Yard.step, Yard.poll_of_absent before, before] at found
    | some former => exact ((sound.kept.inOrder.poll before).waits found).2.2
  | drop other =>
    cases about
    simp [Yard.step, Yard.drop, Listing.get?_remove] at found
  | _ => cases about

theorem Sound.known_step (sound : attended.Sound) {event : Event Body}
    (orderly : event.IsOrderly attended.yard) (id : CallId) (call : Call Body) (scope : ScopeId)
    (found : (attended.step event).yard.calls.get? id = some call)
    (under : call.concern.scope? = some scope) :
    (attended.step event).yard.scopes.Knows scope := by
  refine (sound.kept.evolves event).knows ?_
  rcases sound.kept.origin found with known | ⟨request, rfl, rfl⟩
  · obtain ⟨former, before, same⟩ := sound.kept.concern_step known found
    exact sound.known id former scope before (same ▸ under)
  · exact orderly scope
      (Yard.mem_scopes_of_concern (sound.kept.begun found).1 under)

/-- No call is forgotten. -/
theorem Sound.awake_step (sound : attended.Sound) {event : Event Body}
    (honest : (attended.yard.step event).scopes.Honest (attended.yard.step event).now)
    (id : CallId) (call : Call Body) (found : (attended.yard.step event).calls.get? id = some call)
    (progress : (attended.yard.step event).wouldProgress id call = true) :
    id ∈ (attended.step event).called := by
  rcases sound.kept.origin found with known | ⟨request, rfl, rfl⟩
  · by_cases about : event.call? = some id
    · rw [sound.content_of_about about found] at progress
      cases progress
    · have bystander := sound.kept.bystander known about
      obtain ⟨former, before, -⟩ := sound.kept.concern_step known found
      refine List.mem_filter.mpr ⟨List.mem_append.mpr ?_, by simpa using about⟩
      cases content : attended.yard.wouldProgress id former with
      | true => exact .inl (sound.awake id former before content)
      | false =>
        have listed := (Listing.get?_eq_some_iff sound.kept.inOrder.callsDistinct).mp before
        refine .inr (List.mem_map.mpr ⟨(id, former), List.mem_filter.mpr ⟨listed, ?_⟩, rfl⟩)
        exact Yard.any_awaited_of_progress sound.kept.inOrder honest
          (fun scope under => (sound.kept.evolves event).deadline?
            (sound.known id former scope before under))
          before found bystander content progress
  · have content := (sound.kept.begun found).2
    rw [Yard.step] at progress
    rw [content] at progress
    cases progress

theorem Sound.step (sound : attended.Sound) {event : Event Body}
    (orderly : event.IsOrderly attended.yard) : (attended.step event).Sound := by
  obtain ⟨order, -⟩ := sound.kept.now_step event
  have honest : (attended.yard.step event).scopes.Honest (attended.yard.step event).now :=
    (sound.honest.evolve (sound.kept.evolves event)).later order
  exact {
    kept := sound.kept.step event
    honest := honest
    clock := sound.kept.isShown_step sound.clock event
    known := sound.known_step orderly
    awake := sound.awake_step honest }

theorem Sound.leads {last : Attended Body} (sound : attended.Sound)
    (leads : attended.Leads last) : last.Sound := by
  induction leads with
  | nothing => exact sound
  | event leads orderly inductionHypothesis => exact inductionHypothesis.step orderly

end Attended

/-! ### Reasons to wait -/

namespace Yard

variable {yard : Yard Body} {id : CallId}

/-- Whether the slots are open and every one of them is taken by a body. -/
def IsFull (yard : Yard Body) : Prop :=
  yard.slots.closed = false ∧ yard.slots.running = yard.slots.capacity

/-- Whether a body that works for a call has its slot. -/
def HasBody (yard : Yard Body) (id : CallId) : Prop :=
  ∃ job ∈ yard.jobs, job.purpose.patron? = some id

/-- What keeps a call waiting, given when it was begun and the timeout of batches at that time. -/
def HasToWait (yard : Yard Body) (id : CallId) (begun timeout : Duration) : Request Body → Prop
  | .submit _ => yard.IsFull
  | .submitTask scope _ => yard.ended? scope = none ∧ (yard.HasBody id ∨ yard.IsFull)
  | .exec scope => yard.ended? scope = none ∧ yard.now < begun + timeout ∧
    (yard.HasBody id ∨ yard.IsFull)
  | .drain limit => 1 ≤ yard.slots.running ∧ yard.now < begun + limit
  | .watch scope => yard.ended? scope = none

/-- A call that waits for a slot and hears nothing new of it waits because the slots are full,
unless somebody was handed a slot and has not come back for it. -/
theorem InOrderBut.isFull (inOrder : yard.InOrder) (unhanded : yard.slots.granted = [])
    {call : Call Body} (found : yard.calls.get? id = some call) (waits : call.isParked = true)
    (stale : yard.slots.hasNews id = false) : yard.IsFull := by
  have parked := (inOrder.parked id (by simp)).mpr ⟨call, found, waits⟩
  simp only [Slots.hasNews, Bool.or_eq_false_iff] at stale
  rw [Slots.parked, unhanded, List.append_nil] at parked
  have none := inOrder.slots.fair stale.1 (List.ne_nil_of_mem parked)
  have conserved := inOrder.slots.conserved
  simp only [Slots.places, none, unhanded, List.length_nil] at conserved
  exact ⟨stale.1, by omega⟩

theorem hasBody_of_manned (manned : yard.isUnmanned id = false) : yard.HasBody id := by
  simp only [isUnmanned, Bool.not_eq_false', List.any_eq_true] at manned
  obtain ⟨job, member, works⟩ := manned
  exact ⟨job, member, worksFor_iff.mp works⟩

/-- A timer that was set and has not fired is not over. -/
theorem lt_of_timer {begun span now : Duration} (shown : now.isShown = true)
    (ahead : ¬begun.timer span ≤ now) : now < begun + span := by
  obtain ⟨-, readable⟩ := Duration.isShown_iff.mp shown
  unfold Duration.timer Duration.after? at ahead
  split at ahead
  · exact Duration.not_le.mp ahead
  · next beyond =>
    simp only [Duration.seconds, Duration.lt_iff] at readable beyond ⊢
    omega

end Yard

namespace Attended

variable {attended : Attended Body} {id : CallId}

/-- When everybody who was told to look again has done so, nobody can be brought further. -/
theorem Sound.content (sound : attended.Sound) (still : attended.called = []) {call : Call Body}
    (found : attended.yard.calls.get? id = some call) :
    attended.yard.wouldProgress id call = false := by
  refine Bool.eq_false_iff.mpr fun progress => ?_
  have called := sound.awake id call found progress
  rw [still] at called
  cases called

/-- Then nobody was handed a slot and has not come back for it. -/
theorem Sound.granted_eq_nil (sound : attended.Sound) (still : attended.called = []) :
    attended.yard.slots.granted = [] := by
  refine List.eq_nil_iff_forall_not_mem.mpr fun id handed => ?_
  have inOrder := sound.kept.inOrder
  obtain ⟨call, found, parked⟩ :=
    (inOrder.parked id (by simp)).mp (List.mem_append_right _ handed)
  have news : attended.yard.slots.hasNews id = true := by simp [Slots.hasNews, handed]
  have progress := Yard.progress_of_news (inOrder.fits id call (by simp) found) parked news
  rw [sound.content still found] at progress
  cases progress

/-- Whoever waits for a slot when everybody has looked waits because the slots are full. -/
theorem Sound.isFull (sound : attended.Sound) (still : attended.called = [])
    {call : Call Body} (found : attended.yard.calls.get? id = some call)
    (waits : call.isParked = true) (stale : attended.yard.slots.hasNews id = false) :
    attended.yard.IsFull :=
  sound.kept.inOrder.isFull (sound.granted_eq_nil still) found waits stale

theorem Sound.batch_waits (sound : attended.Sound) (still : attended.called = [])
    {held : Batch Body} (found : attended.yard.calls.get? id = some (.batch held)) :
    attended.yard.ended? held.scope = none ∧ ¬held.deadline ≤ attended.yard.now ∧
      (attended.yard.HasBody id ∨ attended.yard.IsFull) := by
  have content := sound.content still found
  simp only [Yard.wouldProgress, Bool.or_eq_false_iff, decide_eq_false_iff_not,
    Option.isSome_eq_false_iff, Option.isNone_iff_eq_none] at content
  obtain ⟨⟨stale, ahead⟩, going⟩ := content
  refine ⟨going, ahead, ?_⟩
  cases submitted : held.unsubmitted.isEmpty with
  | true =>
    simp only [submitted, if_true, Bool.or_eq_false_iff] at stale
    exact .inl (Yard.hasBody_of_manned stale.2)
  | false =>
    simp only [submitted, Bool.false_eq_true, if_false] at stale
    have queued := (sound.kept.inOrder.fits id _ (by simp) found).2 (by simpa using submitted)
    exact .inr (sound.isFull still found queued stale)

theorem Sound.solo_waits (sound : attended.Sound) (still : attended.called = [])
    {call : Call Body} {scope : ScopeId} (found : attended.yard.calls.get? id = some call)
    (under : call.concern = .solo scope) :
    attended.yard.ended? scope = none ∧ (attended.yard.HasBody id ∨ attended.yard.IsFull) := by
  have content := sound.content still found
  cases call with
  | soloQueued named body =>
    cases under
    simp only [Yard.wouldProgress, Bool.or_eq_false_iff, Option.isSome_eq_false_iff,
      Option.isNone_iff_eq_none] at content
    obtain ⟨stale, going⟩ := content
    exact ⟨going, .inr (sound.isFull still found rfl stale)⟩
  | solo named reply =>
    cases under
    simp only [Yard.wouldProgress, Bool.or_eq_false_iff, Option.isSome_eq_false_iff,
      Option.isNone_iff_eq_none] at content
    obtain ⟨rfl, going⟩ := content
    exact ⟨going, .inl (Yard.hasBody_of_manned
      (Yard.isUnmanned_of_solo sound.kept.inOrder found))⟩
  | _ => cases under

theorem Sound.drain_waits (sound : attended.Sound) (still : attended.called = [])
    {timeout : Duration} {deadline : Option Duration}
    (found : attended.yard.calls.get? id = some (.drain timeout deadline)) :
    1 ≤ attended.yard.slots.running ∧ attended.yard.hasPassed deadline = false := by
  have content := sound.content still found
  simp only [Yard.wouldProgress, Bool.or_eq_false_iff] at content
  obtain ⟨manned, ahead⟩ := content
  refine ⟨?_, ahead⟩
  rw [sound.kept.inOrder.staffed]
  exact List.length_pos_iff.mpr (by simpa using manned)

/-- Nobody waits in vain: a call that is under way when everybody who was told to look again has
done so has reason to wait. -/
theorem hasToWait {options : Options} {start : Yard Body} {earlier last : Attended Body}
    {request : Request Body} {call : Call Body} (opened : Yard.openNoted? options = .ok start)
    (before : Leads ⟨start, []⟩ earlier) (orderly : (Event.begin request).IsOrderly earlier.yard)
    (later : Leads (earlier.step (.begin request)) last) (still : last.called = [])
    (waits : last.yard.calls.get? (earlier.yard.begin request).1 = some call) :
    last.yard.HasToWait (earlier.yard.begin request).1 earlier.yard.now earlier.yard.timeout
      request := by
  have early := (sound_openNoted? opened).leads before
  have sound := (early.step orderly).leads later
  have content := sound.content still waits
  obtain ⟨history, same⟩ := later.history
  have requested := early.kept.begun_after (same ▸ waits)
  cases request with
  | submit body =>
    cases call with
    | submit held => exact sound.isFull still waits rfl content
    | _ => cases requested
  | submitTask scope body => exact sound.solo_waits still waits (Option.some.inj requested).symm
  | exec scope =>
    obtain ⟨entries, -, concern⟩ := Option.map_eq_some_iff.mp requested
    cases call with
    | batch held =>
      obtain ⟨rfl, -, limit, -⟩ := Concern.batch.inj concern
      obtain ⟨going, ahead, reason⟩ := sound.batch_waits still waits
      exact ⟨going, Yard.lt_of_timer sound.clock (limit ▸ ahead), reason⟩
    | _ => cases concern
  | drain limit =>
    cases call with
    | drain timeout deadline =>
      cases requested
      obtain ⟨busy, ahead⟩ := sound.drain_waits still waits
      rw [Yard.hasPassed_after? sound.clock, decide_eq_false_iff_not] at ahead
      exact ⟨busy, Duration.not_le.mp ahead⟩
    | _ => cases requested
  | watch scope =>
    cases call with
    | watch under =>
      cases requested
      simpa [Yard.wouldProgress, Yard.HasToWait] using content
    | _ => cases requested

/-- Two tasks are pushed. -/
def pushes : List (Event Unit) :=
  [.openScope .root, .push ⟨1⟩ "first" (), .push ⟨1⟩ "second" ()]

/-- The first of them is done, and the batch comes back for the slot that it was handed. -/
def turns : List (Event Unit) := [.start ⟨0⟩, .finish ⟨0⟩ (.panicked .other), .poll ⟨0⟩]

/-- Two tasks share one slot, and the batch waits for the second of them. -/
theorem hasToWait_for_second : ∃ earlier last : Attended Unit, last.called = [] ∧
    last.yard.HasToWait (earlier.yard.begin (.exec ⟨1⟩)).1 earlier.yard.now earlier.yard.timeout
      (.exec ⟨1⟩) := by
  let begun (start : Yard Unit) := (after ⟨start, []⟩ pushes).step (.begin (.exec ⟨1⟩))
  obtain ⟨start, opened, before, orderly, later, still, call, waits⟩ :
      ∃ start : Yard Unit, Yard.openNoted? (.ofCapacity 1) = .ok start ∧
        Orderly ⟨start, []⟩ pushes ∧
        (Event.begin (.exec ⟨1⟩)).IsOrderly (after ⟨start, []⟩ pushes).yard ∧
        (begun start).Orderly turns ∧ ((begun start).after turns).called = [] ∧
        ∃ call, ((begun start).after turns).yard.calls.get?
          ((after ⟨start, []⟩ pushes).yard.begin (.exec ⟨1⟩)).1 = some call := by
    refine ⟨_, rfl, ?_, ?_, ?_, ?_, Option.isSome_iff_exists.mp ?_⟩ <;> decide +kernel
  exact ⟨_, _, still, hasToWait opened (.after .nothing before) orderly (.after .nothing later)
    still waits⟩

end Attended

end Taskyard

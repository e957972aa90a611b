/-
This file shows that every event of a history leaves the books in order, and the
backlog as well, so that both are in order in every yard that was reached. It
also says what an event may do to the scopes and to the clock, and that the
number of slots is the one that the yard was opened with.
-/

import Taskyard.Proofs.Order.Jobs

namespace Taskyard

variable {Body : Type}

/-- Whether an event may change when or why a scope ends: it moves the clock, opens a scope or
cancels one. -/
def Event.movesEnds : Event Body → Bool
  | .tick _ | .openScope _ | .cancel _ => true
  | .query _ | .push _ _ _ | .discard _ | .setTimeout _ | .release | .begin _ | .poll _ | .drop _
  | .start _ | .finish _ _ | .abandon _ => false

namespace Yard

variable {yard : Yard Body}

/-! ### The backlog -/

theorem Stocked.of_same {other : Yard Body} (stocked : yard.Stocked)
    (backlog : other.backlog = yard.backlog) (taskCount : other.taskCount = yard.taskCount) :
    other.Stocked := by
  constructor
  · rw [backlog]
    exact stocked.distinct
  · rw [backlog, taskCount]
    exact stocked.known

theorem Stocked.remove (stocked : yard.Stocked) (scope : ScopeId) :
    { yard with backlog := yard.backlog.remove scope }.Stocked := by
  constructor
  · intro other
    rw [Backlog.batch_remove]
    split
    · exact List.nodup_nil
    · exact stocked.distinct other
  · intro other entry member
    rw [Backlog.batch_remove] at member
    split at member
    · cases member
    · exact stocked.known other entry member

theorem Stocked.store (stocked : yard.Stocked) (scope : ScopeId) (label : String) (body : Body) :
    (yard.store scope label body).2.Stocked := by
  constructor
  · intro other
    simp only [Yard.store, Yard.note, Backlog.batch_push]
    split
    · rw [List.map_append, List.map_singleton]
      refine List.nodup_append.mpr ⟨stocked.distinct scope, by simp, ?_⟩
      intro task member new single
      obtain ⟨entry, stored, rfl⟩ := List.mem_map.mp member
      rw [List.mem_singleton.mp single]
      have older := stocked.known scope entry stored
      exact fun same => Nat.ne_of_lt older (congrArg TaskId.serial same)
    · exact stocked.distinct other
  · intro other entry member
    simp only [Yard.store, Yard.note, Backlog.batch_push] at member ⊢
    split at member
    · rcases List.mem_append.mp member with stored | new
      · exact Nat.lt_succ_of_lt (stocked.known scope entry stored)
      · rw [List.mem_singleton.mp new]
        exact Nat.lt_succ_self _
    · exact Nat.lt_succ_of_lt (stocked.known other entry member)

theorem Stocked.push (stocked : yard.Stocked) (scope : ScopeId) (label : String) (body : Body) :
    (yard.push scope label body).2.Stocked := by
  unfold Yard.push
  cases ended : yard.ended? scope with
  | some reason =>
    rw [query_of_some ended]
    exact stocked.of_same rfl rfl
  | none =>
    rw [query_of_none ended]
    simp only
    split
    · exact stocked
    · exact stocked.store scope label body

/-- The clock moves, if at all, and nothing else does. -/
theorem advanceTo_eq (yard : Yard Body) (moment : Duration) :
    ∃ now, yard.now ≤ now ∧ yard.advanceTo moment = { yard with now := now } := by
  unfold advanceTo
  split
  · next later => exact ⟨moment, later.1, rfl⟩
  · exact ⟨yard.now, Nat.le_refl _, rfl⟩

/-- A scope that has ended takes no task. -/
theorem push_of_ended {scope : ScopeId} {reason : EndReason}
    (ended : yard.ended? scope = some reason) (label : String) (body : Body) :
    yard.push scope label body =
      (.error (.scope reason), { yard with scopes := yard.scopes.settle scope reason }) := by
  rw [Yard.push, query_of_some ended]

/-- Slots that are closed take no task either. -/
theorem push_of_closed {scope : ScopeId} (going : yard.ended? scope = none)
    (closed : yard.slots.closed = true) (label : String) (body : Body) :
    yard.push scope label body = (.error .closed, yard) := by
  rw [Yard.push, query_of_none going]
  exact if_pos closed

theorem push_of_open {scope : ScopeId} (going : yard.ended? scope = none)
    (opened : ¬yard.slots.closed = true) (label : String) (body : Body) :
    yard.push scope label body =
      (.ok (yard.store scope label body).1, (yard.store scope label body).2) := by
  rw [Yard.push, query_of_none going]
  exact if_neg opened

/-- What a push may change. -/
theorem push_eq (yard : Yard Body) (scope : ScopeId) (label : String) (body : Body) :
    ∃ scopes backlog taskCount journal, Scopes.Asked yard.now yard.scopes scopes ∧
      (yard.push scope label body).2 = { yard with
        scopes := scopes, backlog := backlog, taskCount := taskCount, journal := journal } := by
  unfold Yard.push
  cases ended : yard.ended? scope with
  | some reason =>
    rw [query_of_some ended]
    exact ⟨_, _, _, _, .settled .nothing ended, rfl⟩
  | none =>
    rw [query_of_none ended]
    simp only
    split <;> exact ⟨_, _, _, _, .nothing, rfl⟩

theorem Stocked.surrounded {other : Yard Body} (stocked : yard.Stocked)
    (same : other.surroundings = yard.surroundings) : other.Stocked :=
  stocked.of_same (congrArg Surroundings.backlog same) (congrArg Surroundings.taskCount same)

theorem Stocked.prepare (stocked : yard.Stocked) (request : Request Body) :
    (yard.prepared request).Stocked := by
  cases request with
  | exec scope => exact (stocked.remove scope).of_same rfl rfl
  | submit body => exact stocked.of_same rfl rfl
  | submitTask scope body => exact stocked.of_same rfl rfl
  | drain timeout => exact stocked.of_same rfl rfl
  | watch scope => exact stocked.of_same rfl rfl

/-! ### The books -/

/-- A call that is not under way leaves no trace when it is dropped. -/
theorem drop_of_absent {id : CallId} (outside : id ∉ yard.slots.parked)
    (absent : id ∉ yard.calls.keys) : yard.drop id = yard := by
  rw [drop, Slots.withdraw_of_not_mem outside, Listing.remove_of_not_mem absent]

theorem InOrderBut.give (inOrder : yard.InOrder) (id : CallId) : (yard.drop id).InOrder := by
  by_cases known : id.serial < yard.callCount
  · exact (inOrder.deal known).drop
  · have absent : id ∉ yard.calls.keys := fun member => known (inOrder.callsKnown id member)
    have outside : id ∉ yard.slots.parked := fun member => by
      obtain ⟨call, found, -⟩ := (inOrder.parked id (by simp)).mp member
      simp [Listing.get?_eq_none_iff.mpr absent] at found
    rwa [drop_of_absent outside absent]

/-- Closing the slots tells those that wait for one, and nobody else. -/
theorem InOrderBut.closeSlots (inOrder : yard.InOrder) : yard.closeSlots.InOrder :=
  { inOrder with slots := inOrder.slots.close }

theorem map_start {Item : Type} {read : Job Body → Item} (id : JobId) (jobs : List (Job Body))
    (unmoved : ∀ job, read { job with started := true } = read job) :
    (jobs.map fun job => if job.id = id then { job with started := true } else job).map read =
      jobs.map read := by
  rw [List.map_map]
  refine List.map_congr_left fun job _ => ?_
  simp only [Function.comp_apply]
  split
  · exact unmoved job
  · rfl

theorem staff_startJob (yard : Yard Body) (job : JobId) (id : CallId) :
    (yard.startJob job).staff id = yard.staff id := by
  have served : ∀ jobs : List (Job Body), (jobs.filter (worksFor id)).map Job.purpose =
      (jobs.map Job.purpose).filter fun purpose => purpose.patron? = some id := by
    intro jobs
    rw [List.filter_map]
    congr 2
    funext job
    simp [← worksFor_iff]
  rw [staff, staff, served, served, startJob]
  exact congrArg _ (map_start job yard.jobs fun _ => rfl)

theorem InOrderBut.startJob (inOrder : yard.InOrder) (id : JobId) : (yard.startJob id).InOrder := by
  have former : ∀ job ∈ (yard.startJob id).jobs, ∃ other ∈ yard.jobs,
      other.id = job.id ∧ other.purpose = job.purpose := by
    intro job member
    obtain ⟨other, listed, rfl⟩ := List.mem_map.mp member
    refine ⟨other, listed, ?_⟩
    split <;> exact ⟨rfl, rfl⟩
  exact { inOrder with
    staffed := by
      simp only [Yard.startJob, List.length_map]
      exact inOrder.staffed
    jobsDistinct := by
      rw [Yard.startJob, map_start id yard.jobs fun _ => rfl]
      exact inOrder.jobsDistinct
    jobsKnown := fun job member => by
      obtain ⟨other, listed, same, -⟩ := former job member
      exact same ▸ inOrder.jobsKnown other listed
    patronsKnown := fun job member patron works => by
      obtain ⟨other, listed, -, same⟩ := former job member
      exact inOrder.patronsKnown other listed patron (same ▸ works)
    parked := inOrder.parked
    fits := fun call held _ found => by
      rw [staff_startJob]
      exact inOrder.fits call held (by simp) found }

theorem poll_of_absent {id : CallId} (absent : yard.calls.get? id = none) :
    yard.poll id = (none, yard) := by
  rw [poll, absent]

/-- The books of a yard are in order, and so is its backlog. -/
structure Kept (yard : Yard Body) : Prop where
  inOrder : yard.InOrder
  stocked : yard.Stocked

/-- What surrounds a call does not change while the call begins. -/
theorem Kept.surroundings_begin (kept : yard.Kept) (request : Request Body) :
    (yard.begin request).2.2.surroundings = (yard.prepared request).surroundings := by
  cases concern : yard.concern? request with
  | some concern => exact (kept.inOrder.begin kept.stocked concern).surroundings
  | none =>
    obtain ⟨scope, rfl, answered⟩ := begin_of_none concern
    rw [answered]
    rfl

theorem Kept.surroundings_poll (kept : yard.Kept) (id : CallId) :
    (yard.poll id).2.surroundings = yard.surroundings := by
  cases found : yard.calls.get? id with
  | none => rw [poll_of_absent found]
  | some call => exact (kept.inOrder.poll found).surroundings

theorem Kept.begin (kept : yard.Kept) (request : Request Body) :
    (yard.begin request).2.2.Kept := by
  refine ⟨?_, (kept.stocked.prepare request).surrounded (kept.surroundings_begin request)⟩
  cases concern : yard.concern? request with
  | some concern => exact (kept.inOrder.begin kept.stocked concern).inOrder
  | none =>
    obtain ⟨scope, rfl, answered⟩ := begin_of_none concern
    obtain ⟨outside, -, absent⟩ := kept.inOrder.fresh
    rw [answered]
    exact ((kept.inOrder.prepare (.exec scope)).unkept outside absent).of_floor rfl

theorem Kept.poll (kept : yard.Kept) (id : CallId) : (yard.poll id).2.Kept := by
  refine ⟨?_, kept.stocked.surrounded (kept.surroundings_poll id)⟩
  cases found : yard.calls.get? id with
  | none =>
    rw [poll_of_absent found]
    exact kept.inOrder
  | some call => exact (kept.inOrder.poll found).inOrder

theorem Kept.relieve {other : Yard Body} (kept : yard.Kept) (relieved : Relieved yard other) :
    other.Kept := by
  obtain rfl | ⟨job, output, retired⟩ := relieved
  · exact kept
  · exact ⟨retired.inOrder, kept.stocked.surrounded retired.surroundings⟩

/-- Every event leaves the books in order. -/
theorem Kept.step (kept : yard.Kept) (event : Event Body) : (yard.step event).Kept := by
  obtain ⟨inOrder, stocked⟩ := kept
  cases event with
  | tick moment =>
    obtain ⟨now, -, moved⟩ := advanceTo_eq yard moment
    rw [Yard.step, moved]
    exact ⟨inOrder.of_floor rfl, stocked.of_same rfl rfl⟩
  | openScope descent => exact ⟨inOrder.of_floor rfl, stocked.of_same rfl rfl⟩
  | cancel scope => exact ⟨inOrder.of_floor rfl, stocked.of_same rfl rfl⟩
  | query scope => exact ⟨inOrder.of_floor rfl, stocked.of_same rfl rfl⟩
  | push scope label body =>
    refine ⟨?_, stocked.push scope label body⟩
    obtain ⟨scopes, backlog, taskCount, journal, -, pushed⟩ := push_eq yard scope label body
    simp only [Yard.step, pushed]
    exact inOrder.of_floor rfl
  | discard scope => exact ⟨inOrder.of_floor rfl, stocked.remove scope⟩
  | setTimeout timeout => exact ⟨inOrder.of_floor rfl, stocked.of_same rfl rfl⟩
  | release =>
    exact ⟨inOrder.closeSlots.of_floor rfl, fun _ => List.nodup_nil, fun _ _ none => by cases none⟩
  | begin request => exact Kept.begin ⟨inOrder, stocked⟩ request
  | poll call => exact Kept.poll ⟨inOrder, stocked⟩ call
  | drop call => exact ⟨inOrder.give call, stocked.of_same rfl rfl⟩
  | start job => exact ⟨inOrder.startJob job, stocked.of_same rfl rfl⟩
  | finish job ending => exact Kept.relieve ⟨inOrder, stocked⟩ (inOrder.finishJob job ending)
  | abandon job => exact Kept.relieve ⟨inOrder, stocked⟩ (inOrder.abandonJob job)

/-! ### The scopes -/

theorem Kept.asked_begin (kept : yard.Kept) (request : Request Body) :
    Scopes.Asked yard.now yard.scopes (yard.begin request).2.2.scopes := by
  cases concern : yard.concern? request with
  | some concern =>
    have asked := (kept.inOrder.begin kept.stocked concern).scopes
    rwa [now_prepared, scopes_prepared] at asked
  | none =>
    obtain ⟨scope, rfl, answered⟩ := begin_of_none concern
    rw [answered]
    exact .nothing

theorem Kept.asked_poll (kept : yard.Kept) (id : CallId) :
    Scopes.Asked yard.now yard.scopes (yard.poll id).2.scopes := by
  cases found : yard.calls.get? id with
  | none =>
    rw [poll_of_absent found]
    exact .nothing
  | some call => exact (kept.inOrder.poll found).scopes

/-- An event that does not move the clock and neither opens nor cancels a scope asks about scopes at
most. -/
theorem Kept.asked (kept : yard.Kept) {event : Event Body} (plain : event.movesEnds = false) :
    Scopes.Asked yard.now yard.scopes (yard.step event).scopes := by
  cases event with
  | query scope => exact Scopes.Asked.nothing.query scope
  | push scope label body =>
    obtain ⟨scopes, backlog, taskCount, journal, asked, pushed⟩ := push_eq yard scope label body
    rw [Yard.step, pushed]
    exact asked
  | begin request => exact kept.asked_begin request
  | poll id => exact kept.asked_poll id
  | finish job ending => exact (kept.inOrder.finishJob job ending).scopes
  | abandon job => exact (kept.inOrder.abandonJob job).scopes
  | discard | setTimeout | release | drop | start => exact .nothing
  | tick | openScope | cancel => cases plain

/-- An event asks about scopes, cancels one, or adds one. -/
theorem Kept.evolves (kept : yard.Kept) (event : Event Body) :
    Scopes.Evolves yard.now yard.scopes (yard.step event).scopes := by
  cases moves : event.movesEnds with
  | false => exact .asked (kept.asked moves)
  | true =>
    cases event with
    | tick moment =>
      obtain ⟨now, -, moved⟩ := advanceTo_eq yard moment
      rw [Yard.step, moved]
      exact .asked .nothing
    | openScope descent => cases descent <;> exact .added _ _
    | cancel scope => exact .cancelled scope
    | _ => cases moves

/-! ### The clock -/

theorem Kept.now_step (kept : yard.Kept) (event : Event Body) :
    yard.now ≤ (yard.step event).now ∧
      ((yard.step event).now = yard.now ∨ event = .tick (yard.step event).now) := by
  have still : ∀ {now : Duration}, now = yard.now →
      yard.now ≤ now ∧ (now = yard.now ∨ event = .tick now) :=
    fun same => same ▸ ⟨Nat.le_refl _, .inl rfl⟩
  cases event with
  | tick moment =>
    simp only [Yard.step, advanceTo]
    split
    · next order => exact ⟨order.1, .inr rfl⟩
    · exact ⟨Nat.le_refl _, .inl rfl⟩
  | push scope label body =>
    obtain ⟨scopes, backlog, taskCount, journal, -, pushed⟩ := push_eq yard scope label body
    exact still (by rw [Yard.step, pushed])
  | begin request =>
    exact still ((congrArg Surroundings.now (kept.surroundings_begin request)).trans
      (now_prepared request))
  | poll call => exact still (congrArg Surroundings.now (kept.surroundings_poll call))
  | finish job ending =>
    exact still (congrArg Surroundings.now (kept.inOrder.finishJob job ending).surroundings)
  | abandon job =>
    exact still (congrArg Surroundings.now (kept.inOrder.abandonJob job).surroundings)
  | openScope | cancel | query | discard | setTimeout | release | drop | start => exact still rfl

theorem isShown_advanceTo (shown : yard.now.isShown = true) (moment : Duration) :
    (yard.advanceTo moment).now.isShown = true := by
  unfold advanceTo
  split
  · next later => exact later.2
  · exact shown

/-- What the clock shows is something that it can show. -/
theorem Kept.isShown_step (kept : yard.Kept) (shown : yard.now.isShown = true)
    (event : Event Body) : (yard.step event).now.isShown = true := by
  obtain ⟨-, still | moved⟩ := kept.now_step event
  · exact still ▸ shown
  · cases event with
    | tick moment => exact isShown_advanceTo shown moment
    | _ => cases moved

/-- On a clock that shows what it can show, a deadline that the clock cannot count to is ahead like
any other that has not passed. -/
theorem hasPassed_after? (shown : yard.now.isShown = true) (begun span : Duration) :
    yard.hasPassed (begun.after? span) = decide (begun + span ≤ yard.now) := by
  obtain ⟨-, countable⟩ := Duration.isShown_iff.mp shown
  unfold hasPassed Duration.after?
  split
  · rfl
  · next beyond =>
    refine (decide_eq_false fun past => beyond ?_).symm
    simp only [Duration.le_iff, Duration.seconds] at past countable ⊢
    omega

/-! ### Every yard that was reached -/

/-- A yard that was opened has no calls, no jobs and no scopes. -/
theorem openNoted?_eq {options : Options} {start : Yard Body}
    (opened : openNoted? options = .ok start) :
    ∃ slots, Slots.open? options = .ok slots ∧ start = {
      now := .zero, options := options, scopes := .empty, backlog := .empty, slots := slots,
      nextTimeout := none, jobs := [], calls := [], taskCount := 0, jobCount := 0, callCount := 0,
      journal := [.opened options], reported := [] } := by
  cases places : Slots.open? options with
  | error error => simp [openNoted?, open?, places, bind, Except.bind] at opened
  | ok slots =>
    simp only [openNoted?, open?, places, bind, Except.bind, pure, Except.pure,
      Except.ok.injEq] at opened
    exact ⟨slots, rfl, opened.symm⟩

theorem isShown_of_opened {options : Options} {start : Yard Body}
    (opened : openNoted? options = .ok start) : start.now.isShown = true := by
  obtain ⟨slots, -, rfl⟩ := openNoted?_eq opened
  show Duration.zero.isShown = true
  decide

theorem kept_openNoted? {options : Options} {start : Yard Body}
    (opened : openNoted? options = .ok start) :
    start.Kept ∧ start.options = options ∧ start.slots.capacity = options.capacity := by
  obtain ⟨slots, places, rfl⟩ := openNoted?_eq opened
  obtain ⟨sound, capacity⟩ := Slots.sound_open? places
  have unused : slots.running = 0 ∧ slots.parked = [] := by
    unfold Slots.open? at places
    split at places <;> cases places
    exact ⟨rfl, rfl⟩
  refine ⟨⟨?_, ?_⟩, rfl, capacity⟩
  · exact {
      slots := sound
      staffed := unused.1
      jobsDistinct := List.nodup_nil
      jobsKnown := fun _ none => by cases none
      patronsKnown := fun _ none => by cases none
      callsDistinct := List.nodup_nil
      callsKnown := fun _ none => by cases none
      busyKnown := fun _ none => by cases none
      parked := fun id _ => by simp [unused.2, Listing.get?]
      fits := fun _ _ _ none => by cases none }
  · exact ⟨fun _ => List.nodup_nil, fun _ _ none => by cases none⟩

theorem capacity_of_surroundings {other : Yard Body}
    (same : other.surroundings = yard.surroundings) :
    other.options = yard.options ∧ other.slots.capacity = yard.slots.capacity :=
  ⟨congrArg Surroundings.options same, congrArg Surroundings.capacity same⟩

theorem capacity_prepared (yard : Yard Body) (request : Request Body) :
    (yard.prepared request).options = yard.options ∧
      (yard.prepared request).slots.capacity = yard.slots.capacity := by
  cases request <;> exact ⟨rfl, rfl⟩

/-- How many slots there are never changes. -/
theorem Kept.capacity_step (kept : yard.Kept) (event : Event Body) :
    (yard.step event).options = yard.options ∧
      (yard.step event).slots.capacity = yard.slots.capacity := by
  cases event with
  | tick moment =>
    obtain ⟨now, -, moved⟩ := advanceTo_eq yard moment
    rw [Yard.step, moved]
    exact ⟨rfl, rfl⟩
  | push scope label body =>
    obtain ⟨scopes, backlog, taskCount, journal, -, pushed⟩ := push_eq yard scope label body
    simp only [Yard.step, pushed, and_self]
  | begin request =>
    obtain ⟨options, capacity⟩ := capacity_of_surroundings (kept.surroundings_begin request)
    obtain ⟨unmoved, unchanged⟩ := yard.capacity_prepared request
    exact ⟨options.trans unmoved, capacity.trans unchanged⟩
  | poll call => exact capacity_of_surroundings (kept.surroundings_poll call)
  | drop call => exact ⟨rfl, (yard.slots.withdraw_frame call).1⟩
  | finish job ending =>
    exact capacity_of_surroundings (kept.inOrder.finishJob job ending).surroundings
  | abandon job =>
    exact capacity_of_surroundings (kept.inOrder.abandonJob job).surroundings
  | openScope | cancel | query | discard | setTimeout | release | start => exact ⟨rfl, rfl⟩

/-- A property that holds at the opening, and that every event keeps as long as the books are in
order, holds of every yard that was reached. -/
theorem Reached.invariant {options : Options} (reached : Reached options yard)
    (property : Yard Body → Prop)
    (atOpening : ∀ start, openNoted? options = .ok start → property start)
    (kept : ∀ yard event, yard.Kept → property yard → property (yard.step event)) :
    yard.Kept ∧ property yard :=
  @Reached.induction Body options (fun yard => yard.Kept ∧ property yard)
    (fun start opened => ⟨(kept_openNoted? opened).1, atOpening start opened⟩)
    (fun yard event ⟨inOrder, holds⟩ => ⟨inOrder.step event, kept yard event inOrder holds⟩)
    yard reached

/-- The books of every yard that was reached are in order. -/
theorem Reached.kept {options : Options} (reached : Reached options yard) :
    yard.Kept ∧ yard.options = options ∧ yard.slots.capacity = options.capacity := by
  refine reached.invariant
    (fun yard => yard.options = options ∧ yard.slots.capacity = options.capacity)
    (fun start opened => (kept_openNoted? opened).2) fun yard event kept ⟨same, capacity⟩ => ?_
  obtain ⟨unmoved, unchanged⟩ := kept.capacity_step event
  exact ⟨unmoved.trans same, unchanged.trans capacity⟩

end Yard

end Taskyard

/-
This file is about bodies that only say something and then return. Such a body
is over as soon as it has started, so that nobody waits for it longer than until
its turn. The file says what one of them does to a yard in which there are no
others, and shows that whoever waits in such a yard for anything but the end of
a scope has something to look at once no body is left that could run.
-/

import Taskyard.Proofs.Admission
import Taskyard.Proofs.Stillness
import Taskyard.Workload.Schedule

namespace Taskyard

/-- Whether a body only says something and then returns. -/
structure Script.IsBrief (body : Task) : Prop where
  callable : body.callPanic = none
  speaks : ∀ act ∈ body.acts, ∃ level text, act = (Step.say level text).plain
  returns : ∀ self, ∃ value, World.endingOf? self body.finish = some (.returned value)

/-- Whether the bodies that an operation brings along are brief. -/
def Request.IsBrief : Request Task → Prop
  | .submit body | .submitTask _ body => body.IsBrief
  | .exec _ | .drain _ | .watch _ => True

/-- Asking about scopes of which none has ended changes nothing. -/
theorem Scopes.Asked.unmoved {now : Duration} {before after : Scopes}
    (asked : Asked now before after) (going : ∀ scope, before.ended? now scope = none) :
    after = before := by
  induction asked with
  | nothing => rfl
  | settled asked ended same =>
    rw [same, going] at ended
    cases ended

namespace Yard

variable {yard later : Yard Task} {id : CallId} {job : Job Task}

/-- Whether every body that has a slot, or that a call may want one for, is brief, and none has
started. -/
structure Light (yard : Yard Task) : Prop where
  unstarted : ∀ job ∈ yard.jobs, job.started = false
  hired : ∀ job ∈ yard.jobs, job.body.IsBrief
  wanted : ∀ id call, yard.calls.get? id = some call →
    ∀ assignment ∈ call.assignments id, assignment.body.IsBrief

/-- A yard with brief bodies only, in the backlog as well, and with scopes of which none has
ended. -/
structure Brisk (yard : Yard Task) : Prop extends Light yard where
  kept : yard.Kept
  roomy : 0 < yard.slots.capacity
  going : ∀ scope, yard.ended? scope = none
  pushed : ∀ scope, ∀ entry ∈ yard.backlog.batch scope, entry.body.IsBrief

/-! ### Running a body -/

/-- A brief body was run: it had its say, and returned. -/
inductive Ran (job : Job Task) (before : Yard Task) : Yard Task → Prop
  | returned {value : Value} (journal : List Note) (member : job ∈ before.jobs)
      (returns : World.endingOf? (World.scopeOf job.purpose) job.body.finish =
        some (.returned value)) :
      Ran job before
        ({ before.startJob job.id with journal := journal }.finishJob job.id (.returned value))

/-- What comes of running a body. -/
structure Done (job : Job Task) (before after : Yard Task) : Prop where
  kept : after.Kept
  jobs : after.jobs = before.jobs.filter fun other => other.id ≠ job.id
  surroundings : after.surroundings = before.surroundings
  scopes : Scopes.Asked before.now before.scopes after.scopes
  /-- Whoever waits for the body hears what it returned. -/
  calls : ∃ value, World.endingOf? (World.scopeOf job.purpose) job.body.finish =
      some (.returned value) ∧ ∀ id, after.calls.get? id =
    if job.purpose.patron? = some id then
      (before.calls.get? id).map (Call.hear job.purpose (.ok value))
    else before.calls.get? id

/-- The other jobs do not notice that a job starts and is over. -/
theorem filter_startJob (yard : Yard Task) (id : JobId) :
    (yard.startJob id).jobs.filter (fun job => job.id ≠ id) =
      yard.jobs.filter fun job => job.id ≠ id := by
  unfold startJob
  induction yard.jobs with
  | nil => rfl
  | cons job rest inductionHypothesis =>
    by_cases same : job.id = id
    · simpa [same] using inductionHypothesis
    · simpa [same] using inductionHypothesis

theorem Ran.done (ran : Ran job yard later) (kept : yard.Kept) : Done job yard later := by
  cases ran with
  | @returned value journal member returns =>
    obtain ⟨inOrder, stocked⟩ := kept.step (.start job.id)
    have begun : { yard.startJob job.id with journal := journal }.Kept :=
      ⟨inOrder.of_floor rfl, stocked.of_same rfl rfl⟩
    have listed : { job with started := true } ∈ (yard.startJob job.id).jobs :=
      List.mem_map.mpr ⟨job, member, if_pos rfl⟩
    have retired : Retired { job with started := true } (.ok value)
        { yard.startJob job.id with journal := journal } _ :=
      Ending.outputFor_returned value job.purpose ▸
        begun.inOrder.retires listed rfl (.returned value)
    exact {
      kept := begun.step (.finish job.id (.returned value))
      jobs := by
        rw [← filter_startJob, Yard.finishJob, begun.inOrder.job?_of_mem listed]
        cases job.purpose <;> simp [discharge, deliver, reportPanic, amend]
      surroundings := retired.surroundings
      scopes := retired.scopes
      calls := ⟨value, returns, retired.calls⟩ }

/-- A yard stays brisk as long as bodies are, and nothing is done to the clock or the scopes. -/
theorem Brisk.alike (brisk : yard.Brisk) (light : later.Light) (kept : later.Kept)
    (capacity : later.slots.capacity = yard.slots.capacity) (now : later.now = yard.now)
    (scopes : later.scopes = yard.scopes)
    (backlog : ∀ scope, later.backlog.batch scope ⊆ yard.backlog.batch scope) : later.Brisk :=
  { light with
    kept := kept
    roomy := capacity ▸ brisk.roomy
    going := fun scope => by
      rw [Yard.ended?, scopes, now]
      exact brisk.going scope
    pushed := fun scope entry member => brisk.pushed scope entry (backlog scope member) }

/-- A yard stays brisk while what surrounds the calls does. -/
theorem Brisk.surrounded (brisk : yard.Brisk) (light : later.Light) (kept : later.Kept)
    (same : later.surroundings = yard.surroundings)
    (asked : Scopes.Asked yard.now yard.scopes later.scopes) : later.Brisk := by
  have backlog : later.backlog = yard.backlog := congrArg Surroundings.backlog same
  exact brisk.alike light kept (congrArg Surroundings.capacity same)
    (congrArg Surroundings.now same) (asked.unmoved brisk.going)
    fun scope => backlog ▸ List.Subset.refl _

theorem Done.light (done : Done job yard later) (light : yard.Light) : later.Light where
  unstarted other member := by
    rw [done.jobs] at member
    exact light.unstarted other (List.mem_of_mem_filter member)
  hired other member := by
    rw [done.jobs] at member
    exact light.hired other (List.mem_of_mem_filter member)
  wanted id call found assignment member := by
    obtain ⟨value, -, calls⟩ := done.calls
    rw [calls] at found
    split at found
    · obtain ⟨former, known, rfl⟩ := Option.map_eq_some_iff.mp found
      rw [Call.assignments_hear] at member
      exact light.wanted id former known assignment member
    · exact light.wanted id call found assignment member

theorem Brisk.done (brisk : yard.Brisk) (done : Done job yard later) : later.Brisk :=
  brisk.surrounded (done.light brisk.toLight) done.kept done.surroundings done.scopes

/-! ### Dealing with a call -/

/-- A call is kept with the bodies that are left for it to place. -/
theorem Parts.left_of_found {Body : Type} {left : List (Assignment Body)} {floor : Floor Body}
    {result : Option Reply × Yard Body} (parts : Parts id left floor result) {call : Call Body}
    (found : result.2.calls.get? id = some call) : call.assignments id = left := by
  cases parts with
  | gone same => simp [absent_of_gone same] at found
  | @kept later held assignments same =>
    have calls : later.calls = floor.calls.put id held := congrArg Floor.calls same
    simp only [calls, Listing.get?_put, if_true, Option.some.injEq] at found
    exact found ▸ assignments

theorem Places.light {queued : Bool} {assignments : List (Assignment Task)}
    {result : Option Reply × Yard Task} (places : Places id queued assignments yard result)
    (light : yard.Light) (brief : ∀ assignment ∈ assignments, assignment.body.IsBrief) :
    result.2.Light := by
  obtain ⟨recruits, jobs, idle, accounted, -⟩ := exists_recruits id queued assignments yard.floor
  have new : result.2.jobs = yard.jobs ++ recruits := places.parts.jobs.trans jobs
  exact {
    unstarted := by
      rw [new]
      exact List.forall_mem_append.mpr ⟨light.unstarted, idle⟩
    hired := by
      rw [new]
      refine List.forall_mem_append.mpr ⟨light.hired, fun job member => ?_⟩
      refine brief job.assignment (accounted.subset ?_)
      exact List.mem_append_left _ (List.mem_append_right _ (List.mem_map_of_mem member))
    wanted := fun other call found assignment member => by
      by_cases same : other = id
      · subst same
        rw [places.parts.left_of_found found] at member
        exact brief assignment (accounted.subset (List.mem_append_right _ member))
      · rw [places.others same] at found
        exact light.wanted other call found assignment member }

theorem Brisk.poll (brisk : yard.Brisk) (id : CallId) : (yard.poll id).2.Brisk := by
  refine brisk.surrounded ?_ (brisk.kept.poll id) (brisk.kept.surroundings_poll id)
    (brisk.kept.asked_poll id)
  cases found : yard.calls.get? id with
  | none =>
    rw [poll_of_absent found]
    exact brisk.toLight
  | some call => exact (places_poll found).light brisk.toLight (brisk.wanted id call found)

/-! ### Beginning an operation -/

theorem Light.prepare (light : yard.Light) (request : Request Task) :
    (yard.prepared request).Light where
  unstarted := by
    rw [jobs_prepared]
    exact light.unstarted
  hired := by
    rw [jobs_prepared]
    exact light.hired
  wanted := by
    rw [calls_prepared]
    exact light.wanted

/-- An operation that brings along brief bodies at most leaves the yard brisk. -/
theorem Brisk.begin (brisk : yard.Brisk) {request : Request Task} (brief : request.IsBrief) :
    (yard.begin request).2.2.Brisk := by
  have offered : ∀ assignment ∈ yard.offered request, assignment.body.IsBrief := by
    intro assignment member
    have ordered := (yard.offered_sublist request).subset member
    cases request with
    | submit body => exact List.mem_singleton.mp ordered ▸ brief
    | submitTask scope body => exact List.mem_singleton.mp ordered ▸ brief
    | exec scope =>
      obtain ⟨entry, listed, rfl⟩ := List.mem_map.mp ordered
      exact brisk.pushed scope entry listed
    | drain timeout => cases ordered
    | watch scope => cases ordered
  have light := (brisk.kept.places_begin request).light (brisk.toLight.prepare request) offered
  have same := brisk.kept.surroundings_begin request
  have backlog : (yard.begin request).2.2.backlog = (yard.prepared request).backlog :=
    congrArg Surroundings.backlog same
  refine brisk.alike light (brisk.kept.begin request)
    ((congrArg Surroundings.capacity same).trans (yard.capacity_prepared request).2)
    ((congrArg Surroundings.now same).trans (now_prepared request))
    ((brisk.kept.asked_begin request).unmoved brisk.going) fun scope => ?_
  rw [backlog]
  cases request with
  | exec other =>
    simp only [prepared, Backlog.batch_remove]
    split
    · exact List.nil_subset _
    · exact List.Subset.refl _
  | submit | submitTask | drain | watch => exact List.Subset.refl _

/-! ### Something to look at -/

/-- Whether nobody waits but one call. -/
def OnlyWaits (yard : Yard Task) (id : CallId) : Prop :=
  ∀ other, other ≠ id → yard.calls.get? other = none

/-- The only call that waits for a slot has news of one when no body is left. -/
theorem Brisk.hasNews (brisk : yard.Brisk) (alone : yard.OnlyWaits id) (vacant : yard.jobs = [])
    {call : Call Task} (found : yard.calls.get? id = some call) (waits : call.isParked = true) :
    yard.slots.hasNews id = true := by
  cases stale : yard.slots.hasNews id with
  | true => rfl
  | false =>
    have inOrder := brisk.kept.inOrder
    have unhanded : yard.slots.granted = [] := by
      refine List.eq_nil_iff_forall_not_mem.mpr fun other handed => ?_
      obtain ⟨held, underWay, -⟩ :=
        (inOrder.parked other (by simp)).mp (List.mem_append_right _ handed)
      by_cases same : other = id
      · simp [Slots.hasNews, same ▸ handed] at stale
      · simp [alone other same] at underWay
    obtain ⟨-, full⟩ := inOrder.isFull unhanded found waits stale
    have staffed := inOrder.staffed
    have roomy := brisk.roomy
    rw [vacant, List.length_nil] at staffed
    omega

/-- Whoever waits for anything but the end of a scope, and is the only one to wait, has something to
look at when no body is left. -/
theorem Brisk.isReady (brisk : yard.Brisk) (alone : yard.OnlyWaits id) (vacant : yard.jobs = [])
    {call : Call Task} (found : yard.calls.get? id = some call)
    (other : ∀ scope, call ≠ .watch scope) : yard.isReady id = true := by
  have unmanned : yard.isUnmanned id = true := by simp [isUnmanned, vacant]
  have fits := brisk.kept.inOrder.fits id call (by simp) found
  rw [Yard.isReady, found]
  simp only
  by_cases parked : call.isParked = true
  · exact progress_of_news fits parked (brisk.hasNews alone vacant found parked)
  · cases call with
    | submit body => exact absurd rfl parked
    | soloQueued scope body => exact absurd rfl parked
    | solo scope reply =>
      cases reply with
      | some output => rfl
      | none => simp [isUnmanned_of_solo brisk.kept.inOrder found] at unmanned
    | batch held =>
      have submitted : held.unsubmitted = [] := by
        cases left : held.unsubmitted with
        | nil => rfl
        | cons entry rest => exact absurd (fits.2 (by simp [left])) parked
      simp [wouldProgress, submitted, unmanned]
    | drain timeout deadline => simp [wouldProgress, vacant]
    | watch scope => exact absurd rfl (other scope)

end Yard

end Taskyard

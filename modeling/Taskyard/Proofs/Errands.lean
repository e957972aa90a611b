/-
This file keeps a ledger of the bodies that are submitted and forgotten. For
each there is the call that asks for its slot; when the slot is there the body
becomes a job, and the call is gone; at last the job may come to an end. No call
has two jobs and no job has two ends, whatever else happens in between, and a
call that is refused a slot never has a job.
-/

import Taskyard.Proofs.Admission

namespace Taskyard

variable {Body : Type}

namespace Yard

variable {yard start : Yard Body} {call : CallId} {body : Body} {event : Event Body}
  {history : List (Event Body)}

/-! ### The columns of the ledger -/

/-- The body that is submitted at an event, and its call. -/
def submitting (yard : Yard Body) : Event Body → List (CallId × Body)
  | .begin (.submit body) => [(⟨yard.callCount⟩, body)]
  | _ => []

/-- Whether an event deals with the submission of a body. -/
inductive Asks (yard : Yard Body) : Event Body → CallId → Body → Prop
  | first {body : Body} : Asks yard (.begin (.submit body)) ⟨yard.callCount⟩ body
  | again {call : CallId} {body : Body} (found : yard.calls.get? call = some (.submit body)) :
      Asks yard (.poll call) call body

/-- The call with whose submission an event deals. -/
def submitter? (yard : Yard Body) : Event Body → Option CallId
  | .begin (.submit _) => some ⟨yard.callCount⟩
  | .poll call => match yard.calls.get? call with
    | some (.submit _) => some call
    | _ => none
  | _ => none

/-- The call of a submitted body that gets its slot at an event, and the job that the body becomes,
which is the next one there is. -/
def admitting (yard : Yard Body) (event : Event Body) : List (CallId × JobId) :=
  if yard.jobCount < (yard.step event).jobCount then
    (yard.submitter? event).toList.map fun call => (call, ⟨yard.jobCount⟩)
  else []

/-- The job that ends at an event, and how. -/
def ceasing (yard : Yard Body) : Event Body → List (JobId × Ending)
  | .finish id ending => match yard.job? id with
    | some job => if job.started then [(id, ending)] else []
    | none => []
  | _ => []

theorem submitter?_eq_some_iff : yard.submitter? event = some call ↔
    ∃ body, yard.Asks event call body := by
  constructor
  · intro asks
    cases event with
    | begin request =>
      cases request with
      | submit body =>
        cases asks
        exact ⟨body, .first⟩
      | _ => cases asks
    | poll other =>
      simp only [submitter?] at asks
      split at asks
      · next body found =>
        cases asks
        exact ⟨body, .again found⟩
      · cases asks
    | _ => cases asks
  · rintro ⟨body, asks⟩
    cases asks with
    | first => rfl
    | again found => simp only [submitter?, found]

/-! ### What comes of a submission -/

/-- A body that is submitted gets its slot and becomes a job, and its call is gone; or there is no
new job. -/
theorem pollSubmit_cases (yard : Yard Body) (id : CallId) (body : Body) (queued : Bool) :
    ((yard.pollSubmit id body queued).2.jobs =
          yard.jobs ++ [⟨⟨yard.jobCount⟩, .errand, body, false⟩] ∧
        (yard.pollSubmit id body queued).2.jobCount = yard.jobCount + 1 ∧
        (yard.pollSubmit id body queued).2.calls.get? id = none) ∨
      ((yard.pollSubmit id body queued).2.jobs = yard.jobs ∧
        (yard.pollSubmit id body queued).2.jobCount = yard.jobCount) := by
  unfold pollSubmit
  rcases yard.slots.turn id queued with ⟨turn, slots⟩
  cases turn with
  | admitted => exact .inl ⟨rfl, rfl, by simp [drop, Listing.get?_remove]⟩
  | refused error => exact .inr ⟨rfl, rfl⟩
  | queued => exact .inr ⟨rfl, rfl⟩

/-- What an event does about submitted bodies: one of them gets its slot, or none does. -/
inductive Handles (yard : Yard Body) (event : Event Body) : Prop
  | admits {call : CallId} {body : Body} (asks : yard.Asks event call body)
      (admitted : yard.admitting event = [(call, ⟨yard.jobCount⟩)])
      (jobs : (yard.step event).jobs = yard.jobs ++ [⟨⟨yard.jobCount⟩, .errand, body, false⟩])
      (count : (yard.step event).jobCount = yard.jobCount + 1)
      (gone : (yard.step event).calls.get? call = none)
  | spares (admitted : yard.admitting event = [])
      (jobs : ∀ job ∈ (yard.step event).jobs,
        (∃ former ∈ yard.jobs, former.id = job.id ∧ former.assignment = job.assignment) ∨
          yard.jobCount ≤ job.id.serial ∧ job.purpose ≠ .errand)
      (count : yard.jobCount ≤ (yard.step event).jobCount)

/-- Jobs that a call is given are new. -/
theorem fresh_place (id : CallId) (queued : Bool) (assignments : List (Assignment Body))
    (floor : Floor Body) {job : Job Body}
    (member : job ∈ (floor.place id queued assignments).floor.jobs) :
    job ∈ floor.jobs ∨ floor.jobCount ≤ job.id.serial := by
  induction assignments generalizing queued floor with
  | nil => exact .inl member
  | cons first rest inductionHypothesis =>
    unfold Floor.place at member
    rcases told : floor.slots.turn id queued with ⟨turn, slots⟩
    rw [told] at member
    cases turn with
    | admitted =>
      rcases inductionHypothesis false ({ floor with slots := slots }.enlist first) member with
        listed | later
      · rcases List.mem_append.mp listed with old | new
        · exact .inl old
        · exact .inr (List.mem_singleton.mp new ▸ Nat.le_refl _)
      · exact .inr (Nat.le_of_succ_le later)
    | refused error => exact inductionHypothesis false { floor with slots := slots } member
    | queued => exact .inl member

theorem admitting_of_none (nobody : yard.submitter? event = none) : yard.admitting event = [] := by
  rw [admitting, nobody]
  split <;> rfl

/-- Where nobody deals with a submission and no job is new, no submitted body gets a slot. -/
theorem Handles.of_jobs (nobody : yard.submitter? event = none)
    (jobs : ∀ job ∈ (yard.step event).jobs,
      ∃ former ∈ yard.jobs, former.id = job.id ∧ former.assignment = job.assignment)
    (count : (yard.step event).jobCount = yard.jobCount) : yard.Handles event :=
  .spares (admitting_of_none nobody) (fun job member => .inl (jobs job member)) count.ge

theorem Asks.handles (asks : yard.Asks event call body) : yard.Handles event := by
  have dealt : ∃ (before : Yard Body) (queued : Bool), before.jobs = yard.jobs ∧
      before.jobCount = yard.jobCount ∧
      yard.step event = (before.pollSubmit call body queued).2 := by
    cases asks with
    | first => exact ⟨yard.prepared (.submit body), false, rfl, rfl, rfl⟩
    | again found => exact ⟨yard, true, rfl, rfl, by rw [Yard.step, Yard.poll, found]⟩
  obtain ⟨before, queued, jobs, count, dealt⟩ := dealt
  rcases before.pollSubmit_cases call body queued with ⟨more, grown, gone⟩ | ⟨same, still⟩
  · rw [← dealt, count] at grown
    rw [← dealt, jobs, count] at more
    rw [← dealt] at gone
    refine .admits asks ?_ more grown gone
    rw [admitting, if_pos (grown ▸ Nat.lt_succ_self _), submitter?_eq_some_iff.mpr ⟨body, asks⟩]
    rfl
  · rw [← dealt, jobs] at same
    rw [← dealt, count] at still
    refine .spares ?_ (fun job member => .inl ⟨job, same ▸ member, rfl, rfl⟩) still.ge
    rw [admitting, if_neg (still ▸ Nat.lt_irrefl _)]

/-- No body of a call that is not a submission is nobody's. -/
theorem ne_errand_of_mem_assignments {id : CallId} {call : Call Body}
    (other : ∀ body, call ≠ .submit body) {assignment : Assignment Body}
    (member : assignment ∈ call.assignments id) : assignment.purpose ≠ .errand := by
  cases call with
  | submit body => exact absurd rfl (other body)
  | soloQueued scope body =>
    rw [List.mem_singleton.mp member]
    exact Purpose.noConfusion
  | batch held =>
    obtain ⟨entry, -, rfl⟩ := List.mem_map.mp member
    exact Purpose.noConfusion
  | solo | drain | watch => cases member

theorem ne_errand_of_mem_offered {request : Request Body} (other : ∀ body, request ≠ .submit body)
    {assignment : Assignment Body} (member : assignment ∈ yard.offered request) :
    assignment.purpose ≠ .errand := by
  have ordered := (yard.offered_sublist request).subset member
  cases request with
  | submit body => exact absurd rfl (other body)
  | submitTask scope body =>
    rw [List.mem_singleton.mp ordered]
    exact Purpose.noConfusion
  | exec scope =>
    obtain ⟨entry, -, rfl⟩ := List.mem_map.mp ordered
    exact Purpose.noConfusion
  | drain | watch => cases ordered

/-- Dealing with a call that is not a submission gives no submitted body a slot. -/
theorem Places.handles {id : CallId} {queued : Bool} {assignments : List (Assignment Body)}
    {before : Yard Body} {result : Option Reply × Yard Body}
    (places : Places id queued assignments before result) (dealt : yard.step event = result.2)
    (same : before.floor.jobs = yard.jobs) (count : before.floor.jobCount = yard.jobCount)
    (nobody : yard.submitter? event = none)
    (wanted : ∀ assignment ∈ assignments, assignment.purpose ≠ .errand) : yard.Handles event := by
  refine .spares (admitting_of_none nobody) (fun job member => ?_) ?_
  · obtain ⟨recruits, jobs, ordered⟩ := places.recruits
    rw [dealt] at member
    rcases fresh_place id queued assignments before.floor (places.parts.jobs ▸ member) with
      old | fresh
    · exact .inl ⟨job, same ▸ old, rfl, rfl⟩
    · rw [jobs] at member
      rcases List.mem_append.mp member with old | new
      · exact .inl ⟨job, same ▸ old, rfl, rfl⟩
      · exact .inr ⟨count ▸ fresh, wanted _ (ordered job new)⟩
  · rw [dealt, places.parts.jobCount, ← count]
    exact jobCount_le_place id queued assignments before.floor

/-- An event that is about no call brings no job. -/
theorem Kept.jobCount_of_idle (kept : yard.Kept) (nobody : yard.caller? event = none) :
    (yard.step event).jobCount = yard.jobCount := by
  cases kept.touches event with
  | nothing same count | leave left count | close closed count => exact count
  | withdraw own => rw [nobody] at own; cases own
  | deal own => rw [nobody] at own; cases own

/-- The end of a job brings no job. -/
theorem Relieved.handles (relieved : Relieved yard (yard.step event))
    (nobody : yard.submitter? event = none)
    (count : (yard.step event).jobCount = yard.jobCount) : yard.Handles event := by
  refine .of_jobs nobody (fun other member => ⟨other, ?_, rfl, rfl⟩) count
  rcases relieved with same | ⟨job, output, retired⟩
  · exact same ▸ member
  · obtain ⟨older, younger, jobs, rest⟩ := retired.jobs
    rw [rest] at member
    rw [jobs]
    exact ((List.sublist_cons_self job younger).append_left older).subset member

theorem Kept.handles (kept : yard.Kept) (event : Event Body) : yard.Handles event := by
  have unmoved : yard.submitter? event = none → (yard.step event).jobs = yard.jobs →
      (yard.step event).jobCount = yard.jobCount → yard.Handles event := fun nobody jobs count =>
    .of_jobs nobody (fun job member => ⟨job, jobs ▸ member, rfl, rfl⟩) count
  cases event with
  | tick moment =>
    obtain ⟨now, -, moved⟩ := advanceTo_eq yard moment
    exact unmoved rfl (by rw [Yard.step, moved]) (by rw [Yard.step, moved])
  | push scope label body =>
    obtain ⟨scopes, backlog, taskCount, journal, -, pushed⟩ := push_eq yard scope label body
    exact unmoved rfl (by rw [Yard.step, pushed]) (by rw [Yard.step, pushed])
  | begin request =>
    by_cases submits : ∃ body, request = .submit body
    · obtain ⟨body, rfl⟩ := submits
      exact Asks.first.handles
    · have other : ∀ body, request ≠ .submit body := fun body same => submits ⟨body, same⟩
      refine (kept.places_begin request).handles rfl ?_ ?_ ?_ fun assignment =>
        ne_errand_of_mem_offered other
      all_goals cases request <;> first | rfl | exact absurd rfl (other _)
  | poll id =>
    cases found : yard.calls.get? id with
    | none =>
      have same := poll_of_absent found
      refine unmoved ?_ (by rw [Yard.step, same]) (by rw [Yard.step, same])
      simp only [submitter?, found]
    | some call =>
      by_cases submits : ∃ body, call = .submit body
      · obtain ⟨body, rfl⟩ := submits
        exact (Asks.again found).handles
      · have other : ∀ body, call ≠ .submit body := fun body same => submits ⟨body, same⟩
        refine (places_poll found).handles rfl rfl rfl ?_ fun assignment =>
          ne_errand_of_mem_assignments other
        simp only [submitter?, found]
        split
        · next body same => exact absurd (Option.some.inj same) (other body)
        · rfl
  | start id =>
    refine .of_jobs rfl (fun job member => ?_) rfl
    obtain ⟨former, listed, rfl⟩ := List.mem_map.mp member
    refine ⟨former, listed, ?_⟩
    split <;> exact ⟨rfl, rfl⟩
  | finish id ending =>
    exact (kept.inOrder.finishJob id ending).handles rfl (kept.jobCount_of_idle rfl)
  | abandon id => exact (kept.inOrder.abandonJob id).handles rfl (kept.jobCount_of_idle rfl)
  | openScope | cancel | query | discard | setTimeout | release | drop => exact unmoved rfl rfl rfl

/-- A submission that is under way after it was dealt with is for the same body. -/
theorem eq_of_pollSubmit {other : Body} {queued : Bool}
    (found : (yard.pollSubmit call other queued).2.calls.get? call = some (.submit body)) :
    other = body := by
  unfold pollSubmit at found
  rcases told : yard.slots.turn call queued with ⟨turn, slots⟩
  rw [told] at found
  cases turn with
  | admitted => simp [drop, Listing.get?_remove] at found
  | refused error => simp [drop, Listing.get?_remove] at found
  | queued => simpa [keep, Listing.get?_put] using found

/-- A submission that is under way after an event was so before it, or has just begun. -/
theorem Kept.mem_submitting (kept : yard.Kept)
    (found : (yard.step event).calls.get? call = some (.submit body)) :
    yard.calls.get? call = some (.submit body) ∨ (call, body) ∈ yard.submitting event := by
  rcases kept.origin found with known | ⟨request, rfl, rfl⟩
  · refine .inl ?_
    obtain ⟨former, before, concern⟩ := kept.concern_step known found
    by_cases apart : event.call? = some call
    · cases event with
      | poll other =>
        cases apart
        cases former with
        | submit other =>
          rw [Yard.step, Yard.poll, before] at found
          rw [before, eq_of_pollSubmit found]
        | _ => cases concern
      | drop other =>
        cases apart
        simp [Yard.step, drop, Listing.get?_remove] at found
      | _ => cases apart
    · have same := (kept.bystander known apart).unheard
      rw [found, before] at same
      cases former <;> cases same
      exact before
  · have requested := (kept.begun found).1
    cases request with
    | submit other =>
      have same : other = body := @eq_of_pollSubmit _ (yard.prepared (.submit other)) _ _ _ _ found
      exact .inr (List.mem_singleton.mpr (same ▸ rfl))
    | exec scope => simp [concern?, Call.concern, Option.map_eq_some_iff] at requested
    | _ => cases requested

/-! ### The ledger -/

/-- What the columns of the ledger say of a yard: the bodies that were submitted, each in a call of
its own; the jobs that some of them became; and the jobs that have ended. -/
structure Ledger (yard : Yard Body) (submitted : List (CallId × Body))
    (admitted : List (CallId × JobId)) (ceased : List (JobId × Ending)) : Prop where
  known : ∀ call ∈ submitted.map Prod.fst, call.serial < yard.callCount
  distinct : (submitted.map Prod.fst).Nodup
  waiting : ∀ call body, yard.calls.get? call = some (.submit body) → (call, body) ∈ submitted
  served : ∀ call ∈ admitted.map Prod.fst, call ∈ submitted.map Prod.fst ∧
    yard.calls.get? call = none
  once : (admitted.map Prod.fst).Nodup
  numbered : ∀ job ∈ admitted.map Prod.snd, job.serial < yard.jobCount
  apart : (admitted.map Prod.snd).Nodup
  errands : ∀ job ∈ yard.jobs, job.purpose = .errand ↔ job.id ∈ admitted.map Prod.snd
  bodies : ∀ entry ∈ admitted, ∀ job ∈ yard.jobs, job.id = entry.2 →
    (entry.1, job.body) ∈ submitted
  ended : ∀ id ∈ ceased.map Prod.fst, id.serial < yard.jobCount ∧ ∀ job ∈ yard.jobs, job.id ≠ id
  final : (ceased.map Prod.fst).Nodup

variable {submitted : List (CallId × Body)} {admitted : List (CallId × JobId)}
  {ceased : List (JobId × Ending)}

theorem eq_of_mem_submitting (member : call ∈ (yard.submitting event).map Prod.fst) :
    call = ⟨yard.callCount⟩ ∧ ∃ request, event = .begin request := by
  cases event with
  | begin request =>
    cases request with
    | submit body => exact ⟨List.mem_singleton.mp member, _, rfl⟩
    | _ => cases member
  | _ => cases member

theorem nodup_submitting (yard : Yard Body) (event : Event Body) :
    ((yard.submitting event).map Prod.fst).Nodup := by
  cases event with
  | begin request =>
    cases request with
    | submit body => exact List.nodup_singleton _
    | _ => exact List.nodup_nil
  | _ => exact List.nodup_nil

/-- A submitted body that gets its slot is one that an event deals with, and it becomes the next
job. -/
theorem Handles.asks {entry : CallId × JobId} (handles : yard.Handles event)
    (member : entry ∈ yard.admitting event) : entry.2 = ⟨yard.jobCount⟩ ∧
      (yard.step event).calls.get? entry.1 = none ∧ ∃ body, yard.Asks event entry.1 body ∧
        (yard.step event).jobs = yard.jobs ++ [⟨entry.2, .errand, body, false⟩] := by
  cases handles with
  | admits asks admitted jobs count gone =>
    rw [admitted, List.mem_singleton] at member
    subst member
    exact ⟨rfl, gone, _, asks, jobs⟩
  | spares admitted =>
    rw [admitted] at member
    cases member

/-- A job that there is after an event was there before, or is new; then it is nobody's if and only
if it is that of a submitted body. -/
theorem Handles.job {job : Job Body} (handles : yard.Handles event)
    (member : job ∈ (yard.step event).jobs) :
    (∃ former ∈ yard.jobs, former.id = job.id ∧ former.assignment = job.assignment) ∨
      yard.jobCount ≤ job.id.serial ∧
        (job.purpose = .errand ↔ job.id ∈ (yard.admitting event).map Prod.snd) := by
  cases handles with
  | admits asks admitted jobs =>
    rw [jobs] at member
    rcases List.mem_append.mp member with old | new
    · exact .inl ⟨job, old, rfl, rfl⟩
    · obtain rfl := List.mem_singleton.mp new
      refine .inr ⟨Nat.le_refl _, iff_of_true rfl ?_⟩
      rw [admitted]
      exact List.mem_singleton.mpr rfl
  | spares admitted jobs =>
    refine (jobs job member).imp_right fun ⟨fresh, other⟩ => ⟨fresh, iff_of_false other ?_⟩
    rw [admitted]
    exact List.not_mem_nil

theorem Handles.count (handles : yard.Handles event) :
    yard.jobCount ≤ (yard.step event).jobCount := by
  cases handles with
  | admits asks admitted jobs count => omega
  | spares admitted jobs count => exact count

theorem nodup_admitting (yard : Yard Body) (event : Event Body) :
    ((yard.admitting event).map Prod.fst).Nodup ∧
      ((yard.admitting event).map Prod.snd).Nodup := by
  unfold admitting
  split
  · cases yard.submitter? event <;> simp
  · simp

theorem nodup_ceasing (yard : Yard Body) (event : Event Body) :
    ((yard.ceasing event).map Prod.fst).Nodup := by
  cases event with
  | finish id ending =>
    simp only [ceasing]
    repeat' split
    all_goals simp
  | _ => exact List.nodup_nil

/-- A job that ends had started, and is gone. -/
theorem Kept.mem_ceasing (kept : yard.Kept) {id : JobId} {ending : Ending}
    (member : (id, ending) ∈ yard.ceasing event) : event = .finish id ending ∧
      ∃ job ∈ yard.jobs, job.id = id ∧ job.started = true ∧
        Retired job (ending.outputFor job.purpose) yard (yard.step event) := by
  cases event with
  | finish other how =>
    simp only [ceasing] at member
    split at member
    · next job found =>
      split at member
      · next started =>
        cases List.mem_singleton.mp member
        obtain ⟨listed, rfl⟩ := mem_of_job? found
        exact ⟨rfl, job, listed, rfl, started, kept.inOrder.retires listed started ending⟩
      · cases member
    · cases member
  | _ => cases member

/-- A submission that an event deals with is in the ledger, and has no job yet. -/
theorem Ledger.asked (ledger : yard.Ledger submitted admitted ceased)
    (asks : yard.Asks event call body) :
    (call, body) ∈ submitted ++ yard.submitting event ∧ call ∉ admitted.map Prod.fst := by
  cases asks with
  | first =>
    refine ⟨List.mem_append_right _ (List.mem_singleton.mpr rfl), fun member => ?_⟩
    exact Nat.lt_irrefl _ (ledger.known _ (ledger.served _ member).1)
  | again found =>
    refine ⟨List.mem_append_left _ (ledger.waiting call body found), fun member => ?_⟩
    simp [(ledger.served call member).2] at found

/-- What the ledger says of the calls stays true when an event is entered. -/
theorem Ledger.calls (ledger : yard.Ledger submitted admitted ceased) (kept : yard.Kept)
    (event : Event Body) : ∀ call ∈ (admitted ++ yard.admitting event).map Prod.fst,
      call ∈ (submitted ++ yard.submitting event).map Prod.fst ∧
        (yard.step event).calls.get? call = none := by
  intro call member
  rw [List.map_append, List.mem_append] at member
  rcases member with old | new
  · obtain ⟨listed, gone⟩ := ledger.served call old
    refine ⟨by rw [List.map_append]; exact List.mem_append_left _ listed, ?_⟩
    refine Option.eq_none_iff_forall_not_mem.mpr fun held found => ?_
    obtain ⟨former, before, -⟩ := kept.concern_step (ledger.known call listed) found
    simp [gone] at before
  · obtain ⟨entry, listed, rfl⟩ := List.mem_map.mp new
    obtain ⟨-, gone, body, asks, -⟩ := (kept.handles event).asks listed
    exact ⟨List.mem_map.mpr ⟨_, (ledger.asked asks).1, rfl⟩, gone⟩

/-- What it says of the jobs stays true. -/
theorem Ledger.jobs (ledger : yard.Ledger submitted admitted ceased) (kept : yard.Kept)
    (event : Event Body) : ∀ job ∈ (yard.step event).jobs, job.purpose = .errand ↔
      job.id ∈ (admitted ++ yard.admitting event).map Prod.snd := by
  intro job member
  rw [List.map_append, List.mem_append]
  have handles := kept.handles event
  rcases handles.job member with ⟨former, listed, same, assignment⟩ | ⟨fresh, errand⟩
  · have purpose : former.purpose = job.purpose := congrArg Assignment.purpose assignment
    have number := kept.inOrder.jobsKnown former listed
    rw [← purpose, ledger.errands former listed, same]
    refine ⟨.inl, fun either => either.resolve_right fun new => ?_⟩
    obtain ⟨entry, admits, later⟩ := List.mem_map.mp new
    rw [same, ← later, (handles.asks admits).1] at number
    exact Nat.lt_irrefl _ number
  · refine errand.trans ⟨.inr, fun either => either.resolve_left fun old => ?_⟩
    exact Nat.not_le.mpr (ledger.numbered _ old) fresh

/-- A job of a submitted body has that body. -/
theorem Ledger.jobBodies (ledger : yard.Ledger submitted admitted ceased) (kept : yard.Kept)
    (event : Event Body) : ∀ entry ∈ admitted ++ yard.admitting event,
      ∀ job ∈ (yard.step event).jobs, job.id = entry.2 →
        (entry.1, job.body) ∈ submitted ++ yard.submitting event := by
  intro entry listed job member same
  have handles := kept.handles event
  rcases List.mem_append.mp listed with old | new
  · rcases handles.job member with ⟨former, was, id, assignment⟩ | ⟨fresh, -⟩
    · have body : former.body = job.body := congrArg Assignment.body assignment
      exact List.mem_append_left _ (body ▸ ledger.bodies entry old former was (id.trans same))
    · rw [same] at fresh
      exact absurd (ledger.numbered _ (List.mem_map_of_mem old)) (Nat.not_lt.mpr fresh)
  · obtain ⟨next, -, body, asks, jobs⟩ := handles.asks new
    rw [jobs] at member
    rcases List.mem_append.mp member with was | recruit
    · have number := kept.inOrder.jobsKnown job was
      rw [same, next] at number
      exact absurd number (Nat.lt_irrefl _)
    · rw [List.mem_singleton.mp recruit]
      exact (ledger.asked asks).1

/-- A submitted body that gets its slot becomes the next job. -/
theorem Kept.next_admitting (kept : yard.Kept) {job : JobId}
    (member : job ∈ (yard.admitting event).map Prod.snd) :
    job = ⟨yard.jobCount⟩ ∧ yard.jobCount < (yard.step event).jobCount := by
  obtain ⟨entry, listed, rfl⟩ := List.mem_map.mp member
  obtain ⟨same, -, body, -, jobs⟩ := (kept.handles event).asks listed
  refine ⟨same, ?_⟩
  have number := (kept.step event).inOrder.jobsKnown
    ⟨entry.2, .errand, body, false⟩ (jobs ▸ List.mem_append_right _ (List.mem_singleton.mpr rfl))
  rwa [same] at number

/-- A job that has ended is gone for good. -/
theorem Ledger.gone (ledger : yard.Ledger submitted admitted ceased) (kept : yard.Kept)
    (event : Event Body) : ∀ id ∈ (ceased ++ yard.ceasing event).map Prod.fst,
      id.serial < (yard.step event).jobCount ∧ ∀ job ∈ (yard.step event).jobs, job.id ≠ id := by
  have handles := kept.handles event
  rw [List.map_append, List.forall_mem_append]
  refine ⟨fun id old => ?_, fun id new => ?_⟩
  · obtain ⟨number, gone⟩ := ledger.ended id old
    refine ⟨Nat.lt_of_lt_of_le number handles.count, fun job member same => ?_⟩
    rcases handles.job member with ⟨former, was, id, -⟩ | ⟨fresh, -⟩
    · exact gone former was (id.trans same)
    · exact Nat.not_le.mpr number (same ▸ fresh)
  · obtain ⟨⟨_, ending⟩, listed, rfl⟩ := List.mem_map.mp new
    obtain ⟨-, job, was, rfl, -, retired⟩ := kept.mem_ceasing listed
    exact ⟨Nat.lt_of_lt_of_le (kept.inOrder.jobsKnown job was) handles.count,
      (retired.frees kept.inOrder).1⟩

/-- Entering what an event brings keeps the ledger. -/
theorem Ledger.step (ledger : yard.Ledger submitted admitted ceased) (kept : yard.Kept)
    (event : Event Body) : (yard.step event).Ledger (submitted ++ yard.submitting event)
      (admitted ++ yard.admitting event) (ceased ++ yard.ceasing event) where
  known := by
    rw [List.map_append, List.forall_mem_append]
    refine ⟨fun call old => Nat.lt_of_lt_of_le (ledger.known call old) (kept.callCount_le event),
      fun call new => ?_⟩
    obtain ⟨rfl, request, rfl⟩ := eq_of_mem_submitting new
    exact kept.known_begin request
  distinct := by
    rw [List.map_append]
    refine ledger.distinct.append (yard.nodup_submitting event) fun call old new => ?_
    obtain ⟨rfl, -⟩ := eq_of_mem_submitting new
    exact Nat.lt_irrefl _ (ledger.known _ old)
  waiting := fun call body found => List.mem_append.mpr
    ((kept.mem_submitting found).imp_left (ledger.waiting call body))
  served := ledger.calls kept event
  once := by
    rw [List.map_append]
    refine ledger.once.append (yard.nodup_admitting event).1 fun call old new => ?_
    obtain ⟨entry, listed, rfl⟩ := List.mem_map.mp new
    obtain ⟨-, -, body, asks, -⟩ := (kept.handles event).asks listed
    exact (ledger.asked asks).2 old
  numbered := by
    rw [List.map_append, List.forall_mem_append]
    refine ⟨fun job old => Nat.lt_of_lt_of_le (ledger.numbered job old) (kept.handles event).count,
      fun job new => ?_⟩
    obtain ⟨rfl, grown⟩ := kept.next_admitting new
    exact grown
  apart := by
    rw [List.map_append]
    refine ledger.apart.append (yard.nodup_admitting event).2 fun job old new => ?_
    obtain ⟨rfl, -⟩ := kept.next_admitting new
    exact Nat.lt_irrefl _ (ledger.numbered _ old)
  errands := ledger.jobs kept event
  bodies := ledger.jobBodies kept event
  ended := ledger.gone kept event
  final := by
    rw [List.map_append]
    refine ledger.final.append (yard.nodup_ceasing event) fun id old new => ?_
    obtain ⟨⟨_, ending⟩, listed, rfl⟩ := List.mem_map.mp new
    obtain ⟨-, job, was, rfl, -, -⟩ := kept.mem_ceasing listed
    exact (ledger.ended _ old).2 job was rfl

/-! ### Calls that have no job -/

end Yard

end Taskyard

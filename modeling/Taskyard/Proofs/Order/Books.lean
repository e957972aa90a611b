/-
This file says when the books of a yard are in order: the slots are, every body
that has a slot is among the jobs, the submitters that wait are the calls that
wait for a slot, and every call has the jobs that it should have. The books of a
batch say more: every task of the batch is in exactly one place. It has its
entry in the outcome, or its output came in, or a job works on it, or it was not
submitted yet.

While a call is dealt with its own part of the books is open. The order is
therefore stated for all calls but one; it is restored when the call is kept or
dropped.
-/

import Mathlib.Data.List.Nodup
import Taskyard.Proofs.Outcome
import Taskyard.Proofs.Slots
import Taskyard.Yard.History

namespace Taskyard

variable {Body : Type}

/-- The call that a body runs for, if somebody waits for what comes of it. -/
def Purpose.patron? : Purpose → Option CallId
  | .errand => none
  | .solo call | .member call _ _ => some call

/-- Whether a call waits for a slot. -/
def Call.isParked : Call Body → Bool
  | .submit _ | .soloQueued _ _ => true
  | .batch held => held.queued
  | .solo _ _ | .drain _ _ | .watch _ => false

/-- The books of a batch, given what the jobs that work for it are there for. -/
structure Batch.Fits (batch : Batch Body) (id : CallId) (staff : List Purpose) : Prop where
  distinct : batch.tasks.Nodup
  outcome : batch.outcome.Sound
  /-- A batch that waits for a slot has a task to submit. -/
  pressing : batch.queued = true → batch.unsubmitted ≠ []
  /-- Every task is in exactly one place. -/
  accounted : ∃ members : List TaskId,
    staff = members.map (fun task => .member id task batch.scope) ∧
    (batch.outcome.tasks ++ batch.inbox.map Prod.fst ++ members ++
      batch.unsubmitted.map Entry.task).Perm batch.tasks

/-- The jobs that a call should have, given what the jobs that work for it are there for. A batch
that is left to itself waits for a slot as long as it has a task to submit. -/
def Call.Fits (id : CallId) (staff : List Purpose) : Call Body → Prop
  | .submit _ | .soloQueued _ _ | .solo _ (some _) | .drain _ _ | .watch _ => staff = []
  | .solo _ none => staff = [.solo id]
  | .batch held => held.Fits id staff ∧ (held.unsubmitted ≠ [] → held.queued = true)

namespace Batch

variable {batch : Batch Body} {id : CallId} {staff : List Purpose}

/-- A task that was not submitted yet has no entry in the outcome. -/
theorem Fits.fresh {entry : Entry Body} {rest : List (Entry Body)} (fits : batch.Fits id staff)
    (first : batch.unsubmitted = entry :: rest) : entry.task ∉ batch.outcome.tasks := by
  obtain ⟨members, -, accounted⟩ := fits.accounted
  rw [first, List.map_cons, List.append_assoc, List.append_assoc] at accounted
  intro member
  exact List.disjoint_of_nodup_append (accounted.nodup_iff.mpr fits.distinct) member (by simp)

/-- The first task that was not submitted yet gets a job. -/
theorem Fits.admit {entry : Entry Body} {rest : List (Entry Body)} (fits : batch.Fits id staff)
    (first : batch.unsubmitted = entry :: rest) :
    { batch with unsubmitted := rest, queued := false }.Fits id
      (staff ++ [Purpose.member id entry.task batch.scope]) where
  distinct := fits.distinct
  outcome := fits.outcome
  pressing := by simp
  accounted := by
    obtain ⟨members, same, accounted⟩ := fits.accounted
    refine ⟨members ++ [entry.task], by simp [same], ?_⟩
    simpa [first] using accounted

/-- The first task that was not submitted yet is refused a slot. -/
theorem Fits.refuse {entry : Entry Body} {rest : List (Entry Body)} (fits : batch.Fits id staff)
    (first : batch.unsubmitted = entry :: rest) (output : Output) :
    { batch with
      unsubmitted := rest
      queued := false
      outcome := batch.outcome.record entry.task output }.Fits id staff where
  distinct := fits.distinct
  outcome := fits.outcome.record (fits.fresh first) output
  pressing := by simp
  accounted := by
    obtain ⟨members, same, accounted⟩ := fits.accounted
    refine ⟨members, same, List.perm_iff_count.mpr fun task => ?_⟩
    have count := List.perm_iff_count.mp accounted task
    simp only [first, Outcome.tasks_record (fits.fresh first), List.map_cons, List.count_append,
      List.count_cons, List.count_nil] at count ⊢
    omega

/-- The first task that was not submitted yet waits for a slot. -/
theorem Fits.queue {entry : Entry Body} {rest : List (Entry Body)} (fits : batch.Fits id staff)
    (first : batch.unsubmitted = entry :: rest) : { batch with queued := true }.Fits id staff :=
  { fits with pressing := fun _ => by simp [first] }

/-- Every output that came in is a first one. -/
theorem Fits.incoming (fits : batch.Fits id staff) :
    (batch.outcome.tasks ++ batch.inbox.map Prod.fst).Nodup := by
  obtain ⟨members, -, accounted⟩ := fits.accounted
  rw [List.append_assoc] at accounted
  exact (List.nodup_append.mp (accounted.nodup_iff.mpr fits.distinct)).1

/-- The outputs that came in are entered into the outcome. -/
theorem Fits.collect (fits : batch.Fits id staff) :
    { batch with inbox := [], outcome := batch.outcome.recordAll batch.inbox }.Fits id staff where
  distinct := fits.distinct
  outcome := fits.outcome.recordAll fits.incoming
  pressing := fits.pressing
  accounted := by
    obtain ⟨members, same, accounted⟩ := fits.accounted
    exact ⟨members, same, by simpa [Outcome.tasks_recordAll fits.incoming] using accounted⟩

/-- Once nothing is left to submit and no job works for the batch, every task is known of. -/
theorem Fits.complete (fits : batch.Fits id staff) (unstaffed : staff = [])
    (submitted : batch.unsubmitted = []) :
    (batch.outcome.recordAll batch.inbox).tasks.Perm batch.tasks := by
  subst unstaffed
  obtain ⟨members, same, accounted⟩ := fits.accounted
  rw [Outcome.tasks_recordAll fits.incoming]
  simpa [submitted, List.map_eq_nil_iff.mp same.symm] using accounted

end Batch

namespace Yard

/-- What the jobs that work for a call are there for. -/
def staff (yard : Yard Body) (id : CallId) : List Purpose :=
  (yard.jobs.filter (worksFor id)).map Job.purpose

theorem worksFor_iff {id : CallId} {job : Job Body} :
    worksFor id job = true ↔ job.purpose.patron? = some id := by
  unfold worksFor
  cases job.purpose <;> simp [Purpose.patron?]

theorem isUnmanned_iff {yard : Yard Body} {id : CallId} :
    yard.isUnmanned id = true ↔ yard.staff id = [] := by
  simp [isUnmanned, staff]

/-- The books are in order, except perhaps for a call that is dealt with. -/
structure InOrderBut (busy : Option CallId) (yard : Yard Body) : Prop where
  slots : yard.slots.Sound
  staffed : yard.slots.running = yard.jobs.length
  jobsDistinct : (yard.jobs.map Job.id).Nodup
  jobsKnown : ∀ job ∈ yard.jobs, job.id.serial < yard.jobCount
  patronsKnown : ∀ job ∈ yard.jobs, ∀ id, job.purpose.patron? = some id →
    id.serial < yard.callCount
  callsDistinct : yard.calls.keys.Nodup
  callsKnown : ∀ id ∈ yard.calls.keys, id.serial < yard.callCount
  busyKnown : ∀ id, busy = some id → id.serial < yard.callCount
  parked : ∀ id, busy ≠ some id → (id ∈ yard.slots.parked ↔
    ∃ call, yard.calls.get? id = some call ∧ call.isParked = true)
  fits : ∀ id call, busy ≠ some id → yard.calls.get? id = some call →
    call.Fits id (yard.staff id)

/-- The books of a yard are in order. -/
abbrev InOrder (yard : Yard Body) : Prop := yard.InOrderBut none

/-- A call that has not heard of its body has a job. -/
theorem isUnmanned_of_solo {yard : Yard Body} {call : CallId} {under : ScopeId}
    (inOrder : yard.InOrder) (found : yard.calls.get? call = some (.solo under none)) :
    yard.isUnmanned call = false := by
  have fits : _ = [Purpose.solo call] := inOrder.fits call _ (by simp) found
  refine Bool.eq_false_iff.mpr fun unmanned => ?_
  rw [isUnmanned_iff.mp unmanned] at fits
  cases fits

/-- The part of a yard that the books are about. -/
structure Floor (Body : Type) where
  slots : Slots
  jobs : List (Job Body)
  calls : Listing CallId (Call Body)
  jobCount : Nat
  callCount : Nat

def floor (yard : Yard Body) : Floor Body :=
  ⟨yard.slots, yard.jobs, yard.calls, yard.jobCount, yard.callCount⟩

/-- The clock, the scopes, the backlog and the journal do not matter to the books. -/
theorem InOrderBut.of_floor {busy : Option CallId} {yard other : Yard Body}
    (inOrder : yard.InOrderBut busy) (same : other.floor = yard.floor) : other.InOrderBut busy := by
  simp only [floor, Floor.mk.injEq] at same
  obtain ⟨slots, jobs, calls, jobCount, callCount⟩ := same
  have staff : ∀ id, other.staff id = yard.staff id := fun id => by
    rw [Yard.staff, jobs, Yard.staff]
  constructor
  · exact slots ▸ inOrder.slots
  · rw [slots, jobs]; exact inOrder.staffed
  · rw [jobs]; exact inOrder.jobsDistinct
  · rw [jobs, jobCount]; exact inOrder.jobsKnown
  · rw [jobs, callCount]; exact inOrder.patronsKnown
  · rw [calls]; exact inOrder.callsDistinct
  · rw [calls, callCount]; exact inOrder.callsKnown
  · rw [callCount]; exact inOrder.busyKnown
  · rw [calls, slots]; exact inOrder.parked
  · intro id call apart known
    rw [staff]
    rw [calls] at known
    exact inOrder.fits id call apart known

/-! ### Dealing with one call -/

theorem InOrderBut.deal {yard : Yard Body} {id : CallId} (inOrder : yard.InOrder)
    (known : id.serial < yard.callCount) : yard.InOrderBut (some id) :=
  { inOrder with
    busyKnown := fun _ same => Option.some.inj same ▸ known
    parked := fun other _ => inOrder.parked other (by simp)
    fits := fun other call _ => inOrder.fits other call (by simp) }

/-- A call that is kept closes its part of the books. -/
theorem InOrderBut.keep {yard : Yard Body} {id : CallId} {call : Call Body}
    (inOrder : yard.InOrderBut (some id))
    (parked : id ∈ yard.slots.parked ↔ call.isParked = true)
    (fits : call.Fits id (yard.staff id)) : (yard.keep id call).InOrder where
  slots := inOrder.slots
  staffed := inOrder.staffed
  jobsDistinct := inOrder.jobsDistinct
  jobsKnown := inOrder.jobsKnown
  patronsKnown := inOrder.patronsKnown
  callsDistinct := Listing.nodup_keys_put inOrder.callsDistinct
  callsKnown other member := by
    rw [Yard.keep, Listing.keys_put] at member
    split at member
    · exact inOrder.callsKnown other member
    · rcases List.mem_append.mp member with old | new
      · exact inOrder.callsKnown other old
      · exact List.mem_singleton.mp new ▸ inOrder.busyKnown id rfl
  busyKnown _ none := by cases none
  parked other _ := by
    simp only [Yard.keep, Listing.get?_put]
    by_cases same : other = id
    · subst same
      simpa using parked
    · simpa [same] using inOrder.parked other (by simpa using Ne.symm same)
  fits other found _ known := by
    simp only [Yard.keep, Listing.get?_put] at known
    by_cases same : other = id
    · subst same
      rw [if_pos rfl, Option.some.injEq] at known
      exact known ▸ fits
    · rw [if_neg same] at known
      exact inOrder.fits other found (by simpa using Ne.symm same) known

/-- A call that is dropped has no part in the books any more. -/
theorem InOrderBut.drop {yard : Yard Body} {id : CallId} (inOrder : yard.InOrderBut (some id)) :
    (yard.drop id).InOrder where
  slots := inOrder.slots.withdraw id
  staffed := (yard.slots.withdraw_frame id).2.2.trans inOrder.staffed
  jobsDistinct := inOrder.jobsDistinct
  jobsKnown := inOrder.jobsKnown
  patronsKnown := inOrder.patronsKnown
  callsDistinct := by
    rw [Yard.drop, Listing.keys_remove]
    exact inOrder.callsDistinct.filter _
  callsKnown other member := by
    rw [Yard.drop, Listing.keys_remove] at member
    exact inOrder.callsKnown other (List.mem_of_mem_filter member)
  busyKnown _ none := by cases none
  parked other _ := by
    simp only [Yard.drop, Listing.get?_remove, Slots.mem_parked_withdraw inOrder.slots.distinct]
    by_cases same : other = id
    · simp [same]
    · simpa [same] using inOrder.parked other (by simpa using Ne.symm same)
  fits other call _ known := by
    simp only [Yard.drop, Listing.get?_remove] at known
    by_cases same : other = id
    · simp [same] at known
    · rw [if_neg same] at known
      exact inOrder.fits other call (by simpa using Ne.symm same) known

/-- A call that was answered at once leaves no trace in the books. -/
theorem InOrderBut.unkept {yard : Yard Body} {id : CallId} (inOrder : yard.InOrderBut (some id))
    (outside : id ∉ yard.slots.parked) (absent : yard.calls.get? id = none) : yard.InOrder :=
  { inOrder with
    busyKnown := fun _ none => by cases none
    parked := fun other _ => by
      by_cases same : other = id
      · subst same
        simp [outside, absent]
      · exact inOrder.parked other (by simpa using Ne.symm same)
    fits := fun other call _ found => by
      by_cases same : other = id
      · subst same
        simp [absent] at found
      · exact inOrder.fits other call (by simpa using Ne.symm same) found }

/-- A call that was refused a slot, or told to wait. -/
theorem InOrderBut.told {yard : Yard Body} {id : CallId} {turn : Turn} {slots : Slots}
    (inOrder : yard.InOrderBut (some id)) (heard : yard.slots.Heard id turn slots)
    (outside : turn ≠ .admitted) : { yard with slots := slots }.InOrderBut (some id) :=
  { inOrder with
    slots := heard.sound
    staffed := by
      have running := heard.running
      rw [if_neg outside] at running
      exact running.trans inOrder.staffed
    parked := fun other apart =>
      (heard.others other (by simpa [eq_comm] using apart)).trans (inOrder.parked other apart) }

theorem staff_enlist_own {purpose : Purpose} {id : CallId} (own : purpose.patron? = some id)
    (yard : Yard Body) (body : Body) :
    (yard.enlist purpose body).staff id = yard.staff id ++ [purpose] := by
  have serves : ∀ job : Job Body, job.purpose = purpose → worksFor id job = true := fun job same =>
    worksFor_iff.mpr (same ▸ own)
  simp [staff, enlist, List.filter_append, serves]

theorem staff_enlist_foreign {purpose : Purpose} {id : CallId} (foreign : purpose.patron? ≠ some id)
    (yard : Yard Body) (body : Body) : (yard.enlist purpose body).staff id = yard.staff id := by
  have serves : ∀ job : Job Body, job.purpose = purpose → worksFor id job = false := fun job same =>
    Bool.eq_false_iff.mpr fun works => foreign (same ▸ worksFor_iff.mp works)
  simp [staff, enlist, List.filter_append, serves]

/-- A call that was given a slot for a body, which runs for it or for nobody. -/
theorem InOrderBut.enlist {yard : Yard Body} {id : CallId} {slots : Slots} {purpose : Purpose}
    (inOrder : yard.InOrderBut (some id)) (heard : yard.slots.Heard id .admitted slots)
    (own : ∀ other, purpose.patron? = some other → other = id) (body : Body) :
    ({ yard with slots := slots }.enlist purpose body).InOrderBut (some id) where
  slots := heard.sound
  staffed := by
    have running := heard.running
    rw [if_pos rfl] at running
    simp only [Yard.enlist, List.length_append, List.length_singleton, running, inOrder.staffed]
  jobsDistinct := by
    simp only [Yard.enlist, List.map_append, List.map_cons, List.map_nil]
    refine List.nodup_append.mpr ⟨inOrder.jobsDistinct, by simp, fun old member new single => ?_⟩
    rw [List.mem_singleton.mp single]
    obtain ⟨job, listed, rfl⟩ := List.mem_map.mp member
    have older := inOrder.jobsKnown job listed
    intro equal
    rw [equal] at older
    exact Nat.lt_irrefl _ older
  jobsKnown job member := by
    simp only [Yard.enlist, List.mem_append, List.mem_singleton] at member ⊢
    rcases member with old | rfl
    · exact Nat.lt_succ_of_lt (inOrder.jobsKnown job old)
    · exact Nat.lt_succ_self _
  patronsKnown job member other patron := by
    simp only [Yard.enlist, List.mem_append, List.mem_singleton] at member ⊢
    rcases member with old | rfl
    · exact inOrder.patronsKnown job old other patron
    · exact own other patron ▸ inOrder.busyKnown id rfl
  callsDistinct := inOrder.callsDistinct
  callsKnown := inOrder.callsKnown
  busyKnown := inOrder.busyKnown
  parked other apart :=
    (heard.others other (by simpa [eq_comm] using apart)).trans (inOrder.parked other apart)
  fits other call apart known := by
    have foreign : purpose.patron? ≠ some other := fun patron =>
      apart (congrArg some (own other patron).symm)
    rw [staff_enlist_foreign foreign]
    exact inOrder.fits other call apart known

end Yard

end Taskyard

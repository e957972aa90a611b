/-
This file shows what comes of the end of a job. The job is gone, its slot comes
back, and the call that it worked for, if it is still under way, hears what came
of the job. Nobody else notices.
-/

import Taskyard.Proofs.Order.Begin

namespace Taskyard

variable {Body : Type}

namespace Call

/-! ### What a call hears -/

/-- A call hears what came of a job that worked for it. -/
def hear (purpose : Purpose) (output : Output) (call : Call Body) : Call Body :=
  match purpose with
  | .errand => call
  | .solo _ => call.answer output
  | .member _ task _ => call.receive task output

theorem isParked_hear (purpose : Purpose) (output : Output) (call : Call Body) :
    (call.hear purpose output).isParked = call.isParked := by
  unfold hear answer receive
  repeat' split
  all_goals rfl

theorem concern_hear (purpose : Purpose) (output : Output) (call : Call Body) :
    (call.hear purpose output).concern = call.concern := by
  unfold hear answer receive
  repeat' split
  all_goals rfl

/-- The job of a call that waits for one output hands it over and is gone. -/
theorem Fits.answer {call : Call Body} {id : CallId} {older younger : List Purpose}
    (fits : call.Fits id (older ++ .solo id :: younger)) (output : Output) :
    (call.answer output).Fits id (older ++ younger) := by
  cases call with
  | solo scope reply =>
    cases reply with
    | none =>
      cases older with
      | nil => simpa [Call.Fits, Call.answer] using fits
      | cons purpose rest => simp [Call.Fits] at fits
    | some output => simp [Call.Fits] at fits
  | batch held =>
    obtain ⟨members, same, -⟩ := fits.1.accounted
    have member : Purpose.solo id ∈ members.map fun task => Purpose.member id task held.scope :=
      same ▸ by simp
    simp at member
  | submit body => simp [Call.Fits] at fits
  | soloQueued scope body => simp [Call.Fits] at fits
  | drain timeout deadline => simp [Call.Fits] at fits
  | watch scope => simp [Call.Fits] at fits

/-- A job of a batch hands its output over and is gone. -/
theorem Fits.receive {call : Call Body} {id : CallId} {task : TaskId} {scope : ScopeId}
    {older younger : List Purpose} (fits : call.Fits id (older ++ .member id task scope :: younger))
    (output : Output) : (call.receive task output).Fits id (older ++ younger) := by
  cases call with
  | batch held =>
    obtain ⟨members, same, accounted⟩ := fits.1.accounted
    obtain ⟨before, rest, rfl, olderSame, restSame⟩ := List.map_eq_append_iff.mp same.symm
    obtain ⟨first, behind, rfl, firstSame, behindSame⟩ := List.map_eq_cons_iff.mp restSame
    obtain ⟨-, rfl, -⟩ := Purpose.member.inj firstSame
    refine ⟨?_, fits.2⟩
    exact {
      distinct := fits.1.distinct
      outcome := fits.1.outcome
      pressing := fits.1.pressing
      accounted := by
        refine ⟨before ++ behind, by simp [olderSame, behindSame], ?_⟩
        refine List.perm_iff_count.mpr fun other => ?_
        have count := List.perm_iff_count.mp accounted other
        simp only [List.map_append, List.map_cons, List.map_nil, List.count_append,
          List.count_cons, List.count_nil] at count ⊢
        omega }
  | solo scope reply => cases reply <;> simp [Call.Fits, List.append_eq_singleton_iff] at fits
  | submit body => simp [Call.Fits] at fits
  | soloQueued scope body => simp [Call.Fits] at fits
  | drain timeout deadline => simp [Call.Fits] at fits
  | watch scope => simp [Call.Fits] at fits

/-- A job hands over what came of it and is gone. -/
theorem Fits.hear {call : Call Body} {id : CallId} {purpose : Purpose}
    {older younger : List Purpose} (fits : call.Fits id (older ++ purpose :: younger))
    (patron : purpose.patron? = some id) (output : Output) :
    (call.hear purpose output).Fits id (older ++ younger) := by
  cases purpose with
  | errand => cases patron
  | solo other =>
    cases patron
    exact fits.answer output
  | member other task scope =>
    cases patron
    exact fits.receive output

end Call

namespace Yard

variable {yard : Yard Body} {job : Job Body}

/-! ### A job that is gone -/

/-- The jobs before and after the end of one of them. -/
theorem exists_discharge (member : job ∈ yard.jobs)
    (distinct : (yard.jobs.map Job.id).Nodup) : ∃ older younger,
    yard.jobs = older ++ job :: younger ∧ (yard.discharge job.id).jobs = older ++ younger := by
  obtain ⟨older, younger, split⟩ := List.append_of_mem member
  refine ⟨older, younger, split, ?_⟩
  rw [split, List.map_append, List.map_cons, List.nodup_append] at distinct
  obtain ⟨-, distinctRest, apart⟩ := distinct
  have others : ∀ other ∈ older ++ younger, decide (other.id ≠ job.id) = true := by
    intro other listed
    rcases List.mem_append.mp listed with before | behind
    · exact decide_eq_true (apart _ (List.mem_map_of_mem before) _ List.mem_cons_self)
    · refine decide_eq_true fun same => (List.nodup_cons.mp distinctRest).1 ?_
      exact same ▸ List.mem_map_of_mem behind
  rw [List.forall_mem_append] at others
  simp only [discharge, split, List.filter_append, List.filter_cons, ne_eq, not_true_eq_false,
    decide_false, Bool.false_eq_true, if_false]
  rw [List.filter_eq_self.mpr others.1, List.filter_eq_self.mpr others.2]

/-- The end of a job leaves the books in order but for the call that it worked for. -/
theorem InOrderBut.discharge (inOrder : yard.InOrder)
    (member : job ∈ yard.jobs) : (yard.discharge job.id).InOrderBut job.purpose.patron? := by
  obtain ⟨older, younger, before, after⟩ := exists_discharge member inOrder.jobsDistinct
  have busy : 0 < yard.slots.running :=
    inOrder.staffed ▸ List.length_pos_of_mem member
  have kept : ∀ other ∈ (yard.discharge job.id).jobs, other ∈ yard.jobs := fun other listed =>
    List.mem_of_mem_filter listed
  exact {
    slots := inOrder.slots.leave busy
    staffed := by
      have staffed := inOrder.staffed
      obtain ⟨-, -, running⟩ := yard.slots.leave_frame
      rw [after]
      simp only [Yard.discharge, running, before, List.length_append,
        List.length_cons] at staffed ⊢
      omega
    jobsDistinct := inOrder.jobsDistinct.sublist (List.filter_sublist.map Job.id)
    jobsKnown := fun other listed => inOrder.jobsKnown other (kept other listed)
    patronsKnown := fun other listed => inOrder.patronsKnown other (kept other listed)
    callsDistinct := inOrder.callsDistinct
    callsKnown := inOrder.callsKnown
    busyKnown := fun id patron => inOrder.patronsKnown job member id patron
    parked := fun id _ => (yard.slots.mem_parked_leave id).trans (inOrder.parked id (by simp))
    fits := fun id call apart found => by
      have idle : worksFor id job = false :=
        Bool.eq_false_iff.mpr fun works => apart (worksFor_iff.mp works)
      have staff : (yard.discharge job.id).staff id = yard.staff id := by
        rw [Yard.staff, after, Yard.staff, before]
        simp [idle]
      exact staff ▸ inOrder.fits id call (by simp) found }

/-- The jobs of the call that a job worked for, before and after its end. -/
theorem staff_discharge {id : CallId} (inOrder : yard.InOrder)
    (member : job ∈ yard.jobs) (patron : job.purpose.patron? = some id) : ∃ older younger,
    yard.staff id = older ++ job.purpose :: younger ∧
      (yard.discharge job.id).staff id = older ++ younger := by
  obtain ⟨older, younger, before, after⟩ := exists_discharge member inOrder.jobsDistinct
  refine ⟨(older.filter (worksFor id)).map Job.purpose,
    (younger.filter (worksFor id)).map Job.purpose, ?_, ?_⟩
  · simp [staff, before, worksFor_iff.mpr patron]
  · simp [staff, after]

/-- A call that is changed closes its part of the books. -/
theorem InOrderBut.amend {id : CallId} {change : Call Body → Call Body}
    (inOrder : yard.InOrderBut (some id))
    (parked : id ∈ yard.slots.parked ↔
      ∃ call, yard.calls.get? id = some call ∧ (change call).isParked = true)
    (fits : ∀ call, yard.calls.get? id = some call → (change call).Fits id (yard.staff id)) :
    (yard.amend id change).InOrder :=
  { inOrder with
    callsDistinct := by
      rw [Yard.amend, Listing.keys_amend]
      exact inOrder.callsDistinct
    callsKnown := fun other member => by
      rw [Yard.amend, Listing.keys_amend] at member
      exact inOrder.callsKnown other member
    busyKnown := fun _ none => by cases none
    parked := fun other _ => by
      simp only [Yard.amend, Listing.get?_amend]
      by_cases same : other = id
      · subst same
        simpa [Option.map_eq_some_iff] using parked
      · simpa [same] using inOrder.parked other (by simpa using Ne.symm same)
    fits := fun other call _ found => by
      simp only [Yard.amend, Listing.get?_amend] at found
      by_cases same : other = id
      · subst same
        rw [if_pos rfl] at found
        obtain ⟨former, known, rfl⟩ := Option.map_eq_some_iff.mp found
        exact fits former known
      · rw [if_neg same] at found
        exact inOrder.fits other call (by simpa using Ne.symm same) found }

/-! ### The end of a job -/

/-- A job is over: whoever it worked for hears of it, and its slot comes back. -/
def retire (yard : Yard Body) (job : Job Body) (output : Output) : Yard Body :=
  match job.purpose.patron? with
  | none => yard.discharge job.id
  | some id => (yard.amend id (Call.hear job.purpose output)).discharge job.id

theorem scopes_retire (yard : Yard Body) (job : Job Body) (output : Output) :
    (yard.retire job output).scopes = yard.scopes := by
  unfold retire
  split <;> rfl

theorem jobs_retire (yard : Yard Body) (job : Job Body) (output : Output) :
    (yard.retire job output).jobs = yard.jobs.filter fun other => other.id ≠ job.id := by
  unfold retire
  split <;> rfl

/-- What comes of the end of a job, compared with the yard before. -/
structure Retired (job : Job Body) (output : Output) (before after : Yard Body) : Prop where
  inOrder : after.InOrder
  jobs : ∃ older younger, before.jobs = older ++ job :: younger ∧ after.jobs = older ++ younger
  calls : ∀ id, after.calls.get? id =
    if job.purpose.patron? = some id then
      (before.calls.get? id).map (Call.hear job.purpose output)
    else before.calls.get? id
  surroundings : after.surroundings = before.surroundings
  scopes : Scopes.Asked before.now before.scopes after.scopes

theorem surroundings_discharge (yard : Yard Body) (id : JobId) :
    (yard.discharge id).surroundings = yard.surroundings := by
  obtain ⟨capacity, closed, -⟩ := yard.slots.leave_frame
  simp only [Yard.surroundings, Yard.discharge, capacity, closed]

theorem InOrderBut.retire (inOrder : yard.InOrder) (member : job ∈ yard.jobs) (output : Output) :
    Retired job output yard (yard.retire job output) := by
  have discharged := inOrder.discharge member
  obtain ⟨older, younger, split, rest⟩ := exists_discharge member inOrder.jobsDistinct
  unfold Yard.retire
  cases patron : job.purpose.patron? with
  | none =>
    rw [patron] at discharged
    exact {
      inOrder := discharged
      jobs := ⟨older, younger, split, rest⟩
      calls := fun id => by simp [patron, Yard.discharge]
      surroundings := surroundings_discharge yard job.id
      scopes := .nothing }
  | some id =>
    rw [patron] at discharged
    obtain ⟨before, behind, staffed, left⟩ := staff_discharge inOrder member patron
    exact {
      inOrder := discharged.amend
        (by
          simp only [Call.isParked_hear]
          exact (yard.slots.mem_parked_leave id).trans (inOrder.parked id (by simp)))
        fun call found => by
          rw [left]
          exact (staffed ▸ inOrder.fits id call (by simp) found).hear patron output
      jobs := ⟨older, younger, split, rest⟩
      calls := fun other => by
        simp only [Yard.discharge, Yard.amend, Listing.get?_amend, patron, Option.some.injEq,
          eq_comm]
      surroundings := surroundings_discharge _ job.id
      scopes := .nothing }

/-! ### Ways to end -/

theorem mem_of_job? {id : JobId} (found : yard.job? id = some job) :
    job ∈ yard.jobs ∧ job.id = id :=
  ⟨List.mem_of_find?_eq_some found, by simpa using List.find?_some found⟩

/-- Jobs are told apart by their ids. -/
theorem InOrderBut.eq_of_id {other : Job Body} (inOrder : yard.InOrder) (member : job ∈ yard.jobs)
    (also : other ∈ yard.jobs) (same : job.id = other.id) : job = other :=
  List.inj_on_of_nodup_map inOrder.jobsDistinct member also same

theorem InOrderBut.job?_of_mem (inOrder : yard.InOrder) (member : job ∈ yard.jobs) :
    yard.job? job.id = some job := by
  obtain ⟨found, same⟩ : ∃ found, yard.job? job.id = some found :=
    Option.isSome_iff_exists.mp (List.find?_isSome.mpr ⟨job, member, by simp⟩)
  obtain ⟨listed, id⟩ := mem_of_job? same
  rw [same, inOrder.eq_of_id listed member id]

theorem reportPanic_eq (yard : Yard Body) (uncaught : Option Payload) : ∃ journal reported,
    yard.reportPanic uncaught = { yard with journal := journal, reported := reported } := by
  unfold reportPanic
  split
  · split
    · exact ⟨_, _, rfl⟩
    · exact ⟨_, _, rfl⟩
  · exact ⟨_, _, rfl⟩

/-- Handing over what came of a body changes what was told of panics, and the call that hears of
it. -/
theorem deliver_eq (yard : Yard Body) (purpose : Purpose) (ending : Ending) :
    ∃ journal reported, yard.deliver purpose ending =
      { yard with
        journal := journal
        reported := reported
        calls := match purpose.patron? with
          | none => yard.calls
          | some id => yard.calls.amend id (Call.hear purpose (ending.outputFor purpose)) } := by
  obtain ⟨journal, reported, result⟩ := reportPanic_eq yard (ending.uncaught? purpose)
  refine ⟨journal, reported, ?_⟩
  simp only [deliver, result]
  cases purpose <;> rfl

/-- A body that ends hands over what came of it, unless no such body has started. -/
theorem finishJob_cases (yard : Yard Body) (id : JobId) (ending : Ending) :
    yard.finishJob id ending = yard ∨ ∃ job ∈ yard.jobs, job.id = id ∧ job.started = true ∧
      ∃ journal reported, yard.finishJob id ending =
        { yard with journal := journal, reported := reported }.retire job
          (ending.outputFor job.purpose) := by
  unfold finishJob
  cases found : yard.job? id with
  | none => exact .inl rfl
  | some job =>
    obtain ⟨member, rfl⟩ := mem_of_job? found
    simp only
    split
    · next started =>
      refine .inr ⟨job, member, rfl, started, ?_⟩
      obtain ⟨journal, reported, result⟩ := yard.deliver_eq job.purpose ending
      refine ⟨journal, reported, ?_⟩
      simp only [result, retire]
      cases job.purpose.patron? <;> rfl
    · exact .inl rfl

/-- A body that is dropped hands over why its scope has ended, unless there was no such body. -/
theorem abandonJob_cases (yard : Yard Body) (id : JobId) :
    yard.abandonJob id = yard ∨ ∃ job ∈ yard.jobs, job.id = id ∧ ∃ call task scope reason,
      job.purpose = .member call task scope ∧ yard.ended? scope = some reason ∧
      yard.abandonJob id = { yard with scopes := yard.scopes.settle scope reason }.retire job
        (.error (.scope reason)) := by
  unfold abandonJob
  cases found : yard.job? id with
  | none => exact .inl rfl
  | some job =>
    obtain ⟨member, rfl⟩ := mem_of_job? found
    simp only
    cases purpose : job.purpose with
    | errand => exact .inl rfl
    | solo call => exact .inl rfl
    | member call task scope =>
      simp only
      cases ended : yard.ended? scope with
      | none =>
        rw [query_of_none ended]
        exact .inl rfl
      | some reason =>
        rw [query_of_some ended]
        refine .inr ⟨job, member, rfl, call, task, scope, reason, purpose, ended, ?_⟩
        simp only [retire, purpose, Purpose.patron?]
        rfl

/-- One of the jobs is over, or nothing happened. -/
def Relieved (before after : Yard Body) : Prop :=
  after = before ∨ ∃ job output, Retired job output before after

theorem Relieved.surroundings {before after : Yard Body} (relieved : Relieved before after) :
    after.surroundings = before.surroundings := by
  obtain rfl | ⟨job, output, retired⟩ := relieved
  · rfl
  · exact retired.surroundings

theorem Relieved.scopes {before after : Yard Body} (relieved : Relieved before after) :
    Scopes.Asked before.now before.scopes after.scopes := by
  obtain rfl | ⟨job, output, retired⟩ := relieved
  · exact .nothing
  · exact retired.scopes

/-- What comes of the end of a body: nothing, unless it is that of a job that has started. -/
theorem InOrderBut.finished (inOrder : yard.InOrder) (id : JobId) (ending : Ending) :
    yard.finishJob id ending = yard ∨ ∃ job ∈ yard.jobs, job.id = id ∧ job.started = true ∧
      Retired job (ending.outputFor job.purpose) yard (yard.finishJob id ending) := by
  refine (finishJob_cases yard id ending).imp_right
    fun ⟨job, member, same, started, journal, reported, result⟩ => ⟨job, member, same, started, ?_⟩
  have unmoved : { yard with journal := journal, reported := reported }.InOrder :=
    inOrder.of_floor rfl
  have retired := unmoved.retire member (ending.outputFor job.purpose)
  exact result ▸ { retired with surroundings := retired.surroundings }

/-- A job that has started is over when its body ends. -/
theorem InOrderBut.retires (inOrder : yard.InOrder) (member : job ∈ yard.jobs)
    (started : job.started = true) (ending : Ending) :
    Retired job (ending.outputFor job.purpose) yard (yard.finishJob job.id ending) := by
  rcases inOrder.finished job.id ending with same | ⟨other, listed, id, -, retired⟩
  · have gone : job ∉ (yard.finishJob job.id ending).jobs := by
      rw [Yard.finishJob, inOrder.job?_of_mem member]
      simp [started, Yard.discharge]
    rw [same] at gone
    exact absurd member gone
  · rwa [inOrder.eq_of_id listed member id] at retired

/-- What comes of dropping a body: nothing, unless it is that of a job of a batch whose scope has
ended. -/
theorem InOrderBut.abandoned (inOrder : yard.InOrder) (id : JobId) :
    yard.abandonJob id = yard ∨ ∃ job ∈ yard.jobs, job.id = id ∧ ∃ call task scope reason,
      job.purpose = .member call task scope ∧ yard.ended? scope = some reason ∧
      Retired job (.error (.scope reason)) yard (yard.abandonJob id) := by
  refine (abandonJob_cases yard id).imp_right
    fun ⟨job, member, same, call, task, scope, reason, purpose, ended, result⟩ =>
      ⟨job, member, same, call, task, scope, reason, purpose, ended, ?_⟩
  have unmoved : { yard with scopes := yard.scopes.settle scope reason }.InOrder :=
    inOrder.of_floor rfl
  have retired := unmoved.retire member (.error (.scope reason))
  exact result ▸ { retired with
    surroundings := retired.surroundings
    scopes := by
      rw [scopes_retire]
      exact .settled .nothing ended }

/-- A body of a batch whose scope has ended is over when it is dropped. -/
theorem InOrderBut.abandons (inOrder : yard.InOrder) (member : job ∈ yard.jobs) {call : CallId}
    {task : TaskId} {scope : ScopeId} {reason : EndReason}
    (purpose : job.purpose = .member call task scope) (ended : yard.ended? scope = some reason) :
    Retired job (.error (.scope reason)) yard (yard.abandonJob job.id) := by
  rcases inOrder.abandoned job.id with
    same | ⟨other, listed, id, _, _, _, _, alsoPurpose, alsoEnded, retired⟩
  · have gone : job ∉ (yard.abandonJob job.id).jobs := by
      rw [Yard.abandonJob, inOrder.job?_of_mem member]
      simp [purpose, query_of_some ended, Yard.discharge]
    rw [same] at gone
    exact absurd member gone
  · rw [inOrder.eq_of_id listed member id] at alsoPurpose retired
    rw [purpose] at alsoPurpose
    cases alsoPurpose
    rw [ended] at alsoEnded
    cases alsoEnded
    exact retired

/-- When a job is over its slot is free again. -/
theorem Retired.frees {output : Output} {later : Yard Body}
    (retired : Retired job output yard later) (inOrder : yard.InOrder) :
    (∀ other ∈ later.jobs, other.id ≠ job.id) ∧
      later.slots.running + 1 = yard.slots.running := by
  obtain ⟨older, younger, split, rest⟩ := retired.jobs
  refine ⟨fun other member same => ?_, ?_⟩
  · have distinct := inOrder.jobsDistinct
    rw [split, List.map_append, List.map_cons, List.nodup_middle, ← List.map_append] at distinct
    rw [rest] at member
    exact (List.nodup_cons.mp distinct).1 (same ▸ List.mem_map_of_mem member)
  · rw [retired.inOrder.staffed, inOrder.staffed, split, rest]
    simp only [List.length_append, List.length_cons]
    omega

theorem InOrderBut.finishJob (inOrder : yard.InOrder) (id : JobId) (ending : Ending) :
    Relieved yard (yard.finishJob id ending) :=
  (inOrder.finished id ending).imp_right fun ⟨job, _, _, _, retired⟩ => ⟨job, _, retired⟩

theorem InOrderBut.abandonJob (inOrder : yard.InOrder) (id : JobId) :
    Relieved yard (yard.abandonJob id) :=
  (inOrder.abandoned id).imp_right
    fun ⟨job, _, _, _, _, _, _, _, _, retired⟩ => ⟨job, _, retired⟩

end Yard

end Taskyard

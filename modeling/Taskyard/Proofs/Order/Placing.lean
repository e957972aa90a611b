/-
This file follows the bodies that a call has to place. A call asks for a slot
for one body after the other, until one has to wait; each body before that one
has become a job or was refused. Nothing else that is done to a call while it is
dealt with moves a body: it is kept with the bodies that are left, or it is gone
and they with it.
-/

import Taskyard.Proofs.Order.Events

namespace Taskyard

variable {Body : Type}

/-- A body, and on whose behalf it is to run. -/
structure Assignment (Body : Type) where
  purpose : Purpose
  body : Body

def Job.assignment (job : Job Body) : Assignment Body := ⟨job.purpose, job.body⟩

/-- The task that a body is there for, if it belongs to a batch. -/
def Purpose.task? : Purpose → Option TaskId
  | .errand | .solo _ => none
  | .member _ task _ => some task

/-- A task of a batch as its call has it run. -/
def Entry.assignment (entry : Entry Body) (call : CallId) (scope : ScopeId) : Assignment Body :=
  ⟨.member call entry.task scope, entry.body⟩

/-- The bodies for which a call wants slots and has none yet. -/
def Call.assignments (id : CallId) : Call Body → List (Assignment Body)
  | .submit body => [⟨.errand, body⟩]
  | .soloQueued _ body => [⟨.solo id, body⟩]
  | .batch held => held.unsubmitted.map fun entry => entry.assignment id held.scope
  | .solo _ _ | .drain _ _ | .watch _ => []

/-- A call wants slots for bodies that run for it, or for nobody. -/
theorem Call.patron_of_mem_assignments {id patron : CallId} {call : Call Body}
    {assignment : Assignment Body} (member : assignment ∈ call.assignments id)
    (works : assignment.purpose.patron? = some patron) : patron = id := by
  cases call with
  | submit body =>
    rw [List.mem_singleton.mp member] at works
    cases works
  | soloQueued scope body =>
    rw [List.mem_singleton.mp member] at works
    cases works
    rfl
  | batch held =>
    obtain ⟨entry, -, rfl⟩ := List.mem_map.mp member
    cases works
    rfl
  | solo scope reply => cases member
  | drain timeout deadline => cases member
  | watch scope => cases member

/-- The task of which a note says that it was refused a slot. -/
def Note.refused? : Note → Option TaskId
  | .notSubmitted _ task _ => some task
  | _ => none

namespace Yard

/-- The tasks that were refused a slot, as the journal has them. -/
def refusals (yard : Yard Body) : List TaskId := yard.journal.filterMap Note.refused?

/-! ### Placing bodies -/

/-- A body has got its slot. -/
def Floor.enlist (floor : Floor Body) (assignment : Assignment Body) : Floor Body :=
  { floor with
    jobs := floor.jobs ++ [⟨⟨floor.jobCount⟩, assignment.purpose, assignment.body, false⟩]
    jobCount := floor.jobCount + 1 }

/-- What comes of placing bodies: those that were refused a slot, those that are left because the
first of them has to wait, and the floor. -/
structure Placed (Body : Type) where
  refused : List (Assignment Body)
  left : List (Assignment Body)
  floor : Floor Body

/-- Ask for slots for the bodies of a call, one after the other, until one has to wait. -/
def Floor.place (id : CallId) : Bool → List (Assignment Body) → Floor Body → Placed Body
  | _, [], floor => ⟨[], [], floor⟩
  | queued, first :: rest, floor =>
    match floor.slots.turn id queued with
    | (.admitted, slots) => place id false rest ({ floor with slots := slots }.enlist first)
    | (.refused _, slots) =>
      let placed := place id false rest { floor with slots := slots }
      { placed with refused := first :: placed.refused }
    | (.queued, slots) => ⟨[], first :: rest, { floor with slots := slots }⟩

/-- Every body that was to be placed is refused, recruited or left, and those that are recruited or
left are so in their order. -/
theorem exists_recruits (id : CallId) (queued : Bool) (assignments : List (Assignment Body))
    (floor : Floor Body) : ∃ recruits,
    (floor.place id queued assignments).floor.jobs = floor.jobs ++ recruits ∧
      (∀ job ∈ recruits, job.started = false) ∧
      ((floor.place id queued assignments).refused ++ recruits.map Job.assignment ++
        (floor.place id queued assignments).left).Perm assignments ∧
      (recruits.map Job.assignment ++
        (floor.place id queued assignments).left).Sublist assignments := by
  induction assignments generalizing queued floor with
  | nil => exact ⟨[], (List.append_nil _).symm, List.forall_mem_nil _, .nil, .slnil⟩
  | cons first rest inductionHypothesis =>
    unfold Floor.place
    rcases floor.slots.turn id queued with ⟨turn, slots⟩
    cases turn with
    | admitted =>
      obtain ⟨recruits, jobs, idle, accounted, ordered⟩ :=
        inductionHypothesis false ({ floor with slots := slots }.enlist first)
      refine ⟨⟨⟨floor.jobCount⟩, first.purpose, first.body, false⟩ :: recruits, ?_, ?_, ?_,
        ordered.cons_cons first⟩
      · rw [jobs, Floor.enlist, List.append_assoc, List.singleton_append]
      · exact List.forall_mem_cons.mpr ⟨rfl, idle⟩
      · rw [List.map_cons, List.append_assoc, List.cons_append]
        refine List.perm_middle.trans (.cons first ?_)
        rwa [← List.append_assoc]
    | refused error =>
      obtain ⟨recruits, jobs, idle, accounted, ordered⟩ :=
        inductionHypothesis false { floor with slots := slots }
      exact ⟨recruits, jobs, idle, .cons first accounted, ordered.cons first⟩
    | queued =>
      exact ⟨[], (List.append_nil _).symm, List.forall_mem_nil _,
        List.Perm.refl _, List.Sublist.refl _⟩

theorem calls_place (id : CallId) (queued : Bool) (assignments : List (Assignment Body))
    (floor : Floor Body) :
    (floor.place id queued assignments).floor.calls = floor.calls := by
  induction assignments generalizing queued floor with
  | nil => rfl
  | cons first rest inductionHypothesis =>
    unfold Floor.place
    rcases floor.slots.turn id queued with ⟨turn, slots⟩
    cases turn with
    | admitted => exact inductionHypothesis _ _
    | refused error => exact inductionHypothesis _ _
    | queued => rfl

/-! ### Leaving a call -/

def Floor.keep (floor : Floor Body) (id : CallId) (call : Call Body) : Floor Body :=
  { floor with calls := floor.calls.put id call }

def Floor.drop (floor : Floor Body) (id : CallId) : Floor Body :=
  { floor with slots := floor.slots.withdraw id, calls := floor.calls.remove id }

/-- How a call is left that has these bodies still to place: it is answered and gone, or kept with
them. -/
inductive Parts (id : CallId) (left : List (Assignment Body)) (floor : Floor Body) :
    Option Reply × Yard Body → Prop
  | gone {reply : Reply} {yard : Yard Body} (same : yard.floor = floor.drop id) :
      Parts id left floor (some reply, yard)
  | kept {yard : Yard Body} {call : Call Body} (assignments : call.assignments id = left)
      (same : yard.floor = floor.keep id call) : Parts id left floor (none, yard)

theorem Parts.jobs {id : CallId} {left : List (Assignment Body)} {floor : Floor Body}
    {result : Option Reply × Yard Body} (parts : Parts id left floor result) :
    result.2.jobs = floor.jobs := by
  cases parts with
  | gone same => exact congrArg Floor.jobs same
  | kept assignments same => exact congrArg Floor.jobs same

/-- What comes of dealing with a call that has bodies to place. -/
structure Places (id : CallId) (queued : Bool) (assignments : List (Assignment Body))
    (before : Yard Body) (result : Option Reply × Yard Body) : Prop where
  parts : Parts id (before.floor.place id queued assignments).left
    (before.floor.place id queued assignments).floor result
  refusals : result.2.refusals = before.refusals ++
    (before.floor.place id queued assignments).refused.filterMap fun assignment =>
      assignment.purpose.task?

section

variable {id other : CallId} {queued : Bool} {assignments : List (Assignment Body)}
  {before : Yard Body} {result : Option Reply × Yard Body}
  (places : Places id queued assignments before result)

include places

/-- Only the jobs that the call was given are new. -/
theorem Places.recruits : ∃ recruits, result.2.jobs = before.jobs ++ recruits ∧
    ∀ job ∈ recruits, job.assignment ∈ assignments := by
  obtain ⟨recruits, jobs, -, accounted, -⟩ := exists_recruits id queued assignments before.floor
  refine ⟨recruits, places.parts.jobs.trans jobs, fun job member => accounted.subset ?_⟩
  exact List.mem_append_left _ (List.mem_append_right _ (List.mem_map_of_mem member))

theorem Places.others (apart : other ≠ id) :
    result.2.calls.get? other = before.calls.get? other := by
  have calls : _ = before.calls := calls_place id queued assignments before.floor
  cases places.parts with
  | gone same =>
    have removed : _ = Listing.remove id _ := congrArg Floor.calls same
    rw [calls] at removed
    exact (congrArg (Listing.get? other) removed).trans (by simp [Listing.get?_remove, apart])
  | @kept _ call _ same =>
    have put : _ = Listing.put id call _ := congrArg Floor.calls same
    rw [calls] at put
    exact (congrArg (Listing.get? other) put).trans (by simp [Listing.get?_put, apart])

end

variable {yard : Yard Body} {id : CallId}

theorem refusals_note {note : Note} (other : note.refused? = none) (yard : Yard Body) :
    (yard.note note).refusals = yard.refusals := by
  simp [refusals, Yard.note, other]

/-! ### Polls of one body -/

theorem places_pollSubmit (yard : Yard Body) (id : CallId) (body : Body) (queued : Bool) :
    yard.Places id queued [⟨.errand, body⟩] (yard.pollSubmit id body queued) := by
  unfold pollSubmit
  rcases told : yard.slots.turn id queued with ⟨turn, slots⟩
  have sameTold : yard.floor.slots.turn id queued = (turn, slots) := told
  cases turn <;> constructor <;> simp only [Floor.place, sameTold]
  · exact .gone rfl
  · exact (List.append_nil _).symm
  · exact .gone rfl
  · exact (List.append_nil _).symm
  · exact .kept rfl rfl
  · exact (List.append_nil _).symm

/-- A call that has nothing to place is left as it is, but for an end of its scope. -/
theorem parts_pollSolo (yard : Yard Body) (id : CallId) (scope : ScopeId) (reply : Option Output) :
    Parts id [] yard.floor (yard.pollSolo id scope reply) ∧
      (yard.pollSolo id scope reply).2.refusals = yard.refusals := by
  unfold pollSolo
  cases reply with
  | some output => exact ⟨.gone rfl, rfl⟩
  | none =>
    cases ended : yard.ended? scope with
    | some reason =>
      rw [query_of_some ended]
      exact ⟨.gone rfl, rfl⟩
    | none =>
      rw [query_of_none ended]
      exact ⟨.kept rfl rfl, rfl⟩

theorem places_pollSoloQueued (yard : Yard Body) (id : CallId) (scope : ScopeId) (body : Body)
    (queued : Bool) :
    yard.Places id queued [⟨.solo id, body⟩] (yard.pollSoloQueued id scope body queued) := by
  unfold pollSoloQueued
  rcases told : yard.slots.turn id queued with ⟨turn, slots⟩
  have sameTold : yard.floor.slots.turn id queued = (turn, slots) := told
  cases turn with
  | admitted =>
    obtain ⟨parts, refusals⟩ :=
      ({ yard with slots := slots }.enlist (.solo id) body).parts_pollSolo id scope none
    constructor <;> simp only [Floor.place, sameTold]
    · exact parts
    · exact refusals.trans (List.append_nil _).symm
  | refused error =>
    constructor <;> simp only [Floor.place, sameTold]
    · exact .gone rfl
    · exact (List.append_nil _).symm
  | queued =>
    simp only
    cases ended : ended? { yard with slots := slots } scope with
    | some reason =>
      rw [query_of_some ended]
      constructor <;> simp only [Floor.place, sameTold]
      · exact .gone rfl
      · exact (List.append_nil _).symm
    | none =>
      rw [query_of_none ended]
      constructor <;> simp only [Floor.place, sameTold]
      · exact .kept rfl rfl
      · exact (List.append_nil _).symm

/-! ### Polls of a batch -/

/-- The tasks that a batch has left to submit, as its call has them run. -/
def orders (id : CallId) (batch : Batch Body) (entries : List (Entry Body)) :
    List (Assignment Body) :=
  entries.map fun entry => entry.assignment id batch.scope

/-- Submitting the tasks of a batch is placing their bodies. -/
theorem dispatch_place (id : CallId) (batch : Batch Body) (queued : Bool)
    (entries : List (Entry Body)) (yard : Yard Body) (outcome : Outcome) :
    (yard.dispatch id batch queued entries outcome).2.floor =
        (yard.floor.place id queued (orders id batch entries)).floor ∧
      orders id batch (yard.dispatch id batch queued entries outcome).1.unsubmitted =
        (yard.floor.place id queued (orders id batch entries)).left ∧
      (yard.dispatch id batch queued entries outcome).2.refusals = yard.refusals ++
        (yard.floor.place id queued (orders id batch entries)).refused.filterMap fun assignment =>
          assignment.purpose.task? := by
  induction entries generalizing queued yard outcome with
  | nil => exact ⟨rfl, rfl, (List.append_nil _).symm⟩
  | cons entry rest inductionHypothesis =>
    unfold dispatch
    rcases told : yard.slots.turn id queued with ⟨turn, slots⟩
    have sameTold : yard.floor.slots.turn id queued = (turn, slots) := told
    simp only [orders, List.map_cons, Floor.place, sameTold]
    cases turn with
    | admitted =>
      exact inductionHypothesis false
        ({ yard with slots := slots }.enlist (.member id entry.task batch.scope) entry.body) outcome
    | refused error =>
      obtain ⟨floor, left, refusals⟩ := inductionHypothesis false
        ({ yard with slots := slots }.note (.notSubmitted batch.scope entry.task error))
        (outcome.record entry.task (.error (.submit error)))
      refine ⟨floor, left, refusals.trans ?_⟩
      simp only [Yard.refusals, Yard.note, List.filterMap_append, List.append_assoc]
      rfl
    | queued => exact ⟨rfl, rfl, (List.append_nil _).symm⟩

theorem parts_finish (yard : Yard Body) (id : CallId) (batch : Batch Body) (outcome : Outcome) :
    Parts id (orders id batch batch.unsubmitted) yard.floor (yard.finish id batch outcome) ∧
      (yard.finish id batch outcome).2.refusals = yard.refusals :=
  ⟨.gone rfl, refusals_note rfl yard⟩

theorem parts_awaitBatch (yard : Yard Body) (id : CallId) (batch : Batch Body) :
    Parts id (orders id batch batch.unsubmitted) yard.floor (yard.awaitBatch id batch) ∧
      (yard.awaitBatch id batch).2.refusals = yard.refusals := by
  unfold awaitBatch
  split
  · obtain ⟨parts, refusals⟩ := (yard.note (.timedOut batch.scope batch.timeout)).parts_finish id
      batch (.failAll batch.tasks (.timeout batch.timeout))
    exact ⟨parts, refusals.trans (refusals_note rfl yard)⟩
  · cases ended : yard.ended? batch.scope with
    | some reason =>
      rw [query_of_some ended]
      exact ⟨.gone rfl, ((refusals_note rfl _).trans (refusals_note rfl _)).trans rfl⟩
    | none =>
      rw [query_of_none ended]
      exact ⟨.kept rfl rfl, rfl⟩

theorem refusals_collect (scope : ScopeId) (outputs : List (TaskId × Output)) (yard : Yard Body)
    (outcome : Outcome) : (collect scope outputs yard outcome).2.refusals = yard.refusals := by
  induction outputs generalizing yard outcome with
  | nil => rfl
  | cons entry rest inductionHypothesis =>
    obtain ⟨task, output⟩ := entry
    cases output with
    | ok value => exact inductionHypothesis yard _
    | error error => exact (inductionHypothesis _ _).trans (refusals_note rfl yard)

theorem places_pollBatch (yard : Yard Body) (id : CallId) (batch : Batch Body) :
    yard.Places id batch.queued (orders id batch batch.unsubmitted) (yard.pollBatch id batch) := by
  obtain ⟨floor, left, refusals⟩ :=
    dispatch_place id batch batch.queued batch.unsubmitted yard batch.outcome
  obtain ⟨_, _, _, same⟩ :=
    dispatch_batch id batch batch.queued batch.unsubmitted yard batch.outcome
  unfold pollBatch
  rcases result : yard.dispatch id batch batch.queued batch.unsubmitted batch.outcome with
    ⟨held, after⟩
  rw [result] at floor left refusals same
  simp only at floor left refusals same ⊢
  have ordered : orders id batch held.unsubmitted = orders id held held.unsubmitted := by
    rw [orders, orders, same]
  rw [ordered] at left
  have closes : ∀ {outcome : Option Reply × Yard Body},
      Parts id (orders id held held.unsubmitted) after.floor outcome →
      outcome.2.refusals = after.refusals →
      yard.Places id batch.queued (orders id batch batch.unsubmitted) outcome :=
    fun parts silent => ⟨left ▸ floor ▸ parts, silent.trans refusals⟩
  split
  · obtain ⟨journal, collected⟩ := collect_eq held.scope held.inbox after held.outcome
    have silent := refusals_collect held.scope held.inbox after held.outcome
    rw [collected] at silent ⊢
    simp only at silent ⊢
    split
    · exact closes (.gone rfl) ((refusals_note rfl _).trans silent)
    · obtain ⟨parts, quiet⟩ := { after with journal := journal }.parts_awaitBatch id
        { held with inbox := [], outcome := held.outcome.recordAll held.inbox }
      exact closes parts (quiet.trans silent)
  · obtain ⟨parts, quiet⟩ := after.parts_awaitBatch id held
    exact closes parts quiet

/-! ### Polls of calls that want no slot -/

theorem places_pollSolo (yard : Yard Body) (id : CallId) (scope : ScopeId) (reply : Option Output) :
    yard.Places id false [] (yard.pollSolo id scope reply) := by
  obtain ⟨parts, refusals⟩ := yard.parts_pollSolo id scope reply
  exact ⟨parts, refusals.trans (List.append_nil _).symm⟩

theorem places_pollDrain (yard : Yard Body) (id : CallId) (timeout : Duration)
    (deadline : Option Duration) :
    yard.Places id false [] (yard.pollDrain id timeout deadline) := by
  unfold pollDrain
  split
  · exact ⟨.gone rfl, (List.append_nil _).symm⟩
  · split
    · exact ⟨.gone rfl, (List.append_nil _).symm⟩
    · exact ⟨.kept rfl rfl, (List.append_nil _).symm⟩

theorem places_pollWatch (yard : Yard Body) (id : CallId) (scope : ScopeId) :
    yard.Places id false [] (yard.pollWatch id scope) := by
  unfold pollWatch
  cases ended : yard.ended? scope with
  | some reason =>
    rw [query_of_some ended]
    exact ⟨.gone rfl, (List.append_nil _).symm⟩
  | none =>
    rw [query_of_none ended]
    exact ⟨.kept rfl rfl, (List.append_nil _).symm⟩

/-- What comes of polling a call that is under way. -/
theorem places_poll {call : Call Body} (found : yard.calls.get? id = some call) :
    yard.Places id call.isParked (call.assignments id) (yard.poll id) := by
  unfold poll
  rw [found]
  cases call with
  | submit body => exact yard.places_pollSubmit id body true
  | soloQueued scope body => exact yard.places_pollSoloQueued id scope body true
  | solo scope reply => exact yard.places_pollSolo id scope reply
  | batch held => exact yard.places_pollBatch id held
  | drain timeout deadline => exact yard.places_pollDrain id timeout deadline
  | watch scope => exact yard.places_pollWatch id scope

/-! ### Beginning -/

/-- The bodies for which an operation is to get slots. -/
def assignments (yard : Yard Body) : Request Body → List (Assignment Body)
  | .submit body => [⟨.errand, body⟩]
  | .submitTask _ body => [⟨.solo ⟨yard.callCount⟩, body⟩]
  | .exec scope => (yard.backlog.batch scope).map fun entry =>
    entry.assignment ⟨yard.callCount⟩ scope
  | .drain _ | .watch _ => []

/-- Whether an operation does not begin because its scope has ended. -/
def isTooLate (yard : Yard Body) : Request Body → Bool
  | .submitTask scope _ | .exec scope => (yard.ended? scope).isSome
  | .submit _ | .drain _ | .watch _ => false

/-- The bodies for which an operation asks for slots when it begins. -/
def offered (yard : Yard Body) (request : Request Body) : List (Assignment Body) :=
  if yard.isTooLate request then [] else yard.assignments request

theorem offered_sublist (yard : Yard Body) (request : Request Body) :
    (yard.offered request).Sublist (yard.assignments request) := by
  unfold offered
  split
  · exact List.nil_sublist _
  · exact List.Sublist.refl _

/-- An operation that begins wants slots for bodies that run for it, or for nobody. -/
theorem patron_of_mem_offered {request : Request Body} {assignment : Assignment Body}
    {patron : CallId} (member : assignment ∈ yard.offered request)
    (works : assignment.purpose.patron? = some patron) : patron = ⟨yard.callCount⟩ := by
  have ordered := (yard.offered_sublist request).subset member
  cases request with
  | submit body =>
    rw [List.mem_singleton.mp ordered] at works
    cases works
  | submitTask scope body =>
    rw [List.mem_singleton.mp ordered] at works
    cases works
    rfl
  | exec scope =>
    obtain ⟨entry, -, rfl⟩ := List.mem_map.mp ordered
    cases works
    rfl
  | drain timeout => cases ordered
  | watch scope => cases ordered

/-- A call that was answered before it began leaves the floor as it was. -/
theorem Kept.places_nothing (kept : yard.Kept) (request : Request Body) {reply : Reply}
    {later : Yard Body} (floor : later.floor = (yard.prepared request).floor)
    (refusals : later.refusals = (yard.prepared request).refusals) :
    (yard.prepared request).Places ⟨yard.callCount⟩ false [] (some reply, later) := by
  obtain ⟨outside, -, absent⟩ := kept.inOrder.fresh
  rw [← parked_prepared request] at outside
  rw [← calls_prepared request] at absent
  have untouched : (yard.prepared request).floor.drop ⟨yard.callCount⟩ =
      (yard.prepared request).floor :=
    congrArg Yard.floor (drop_of_absent outside (Listing.get?_eq_none_iff.mp absent))
  exact ⟨.gone (floor.trans untouched.symm), refusals.trans (List.append_nil _).symm⟩

/-- What comes of beginning an operation. -/
theorem Kept.places_begin (kept : yard.Kept) (request : Request Body) :
    (yard.prepared request).Places ⟨yard.callCount⟩ false (yard.offered request)
      (yard.begin request).2 := by
  cases request with
  | submit body =>
    exact (yard.prepared (.submit body)).places_pollSubmit ⟨yard.callCount⟩ body false
  | submitTask scope body =>
    rw [offered, isTooLate]
    cases ended : yard.ended? scope with
    | some reason =>
      rw [begin_submitTask_of_ended ended]
      exact kept.places_nothing _ rfl rfl
    | none =>
      rw [begin_submitTask_of_going ended]
      exact (yard.prepared (.submitTask scope body)).places_pollSoloQueued ⟨yard.callCount⟩ scope
        body false
  | exec scope =>
    cases batch : yard.backlog.batches.get? scope with
    | none =>
      have nothing : yard.offered (.exec scope) = [] := by
        simp [offered, assignments, Backlog.batch, batch]
      rw [begin_exec_of_absent batch, nothing]
      exact kept.places_nothing _ rfl (refusals_note rfl _)
    | some entries =>
      have named : yard.assignments (.exec scope) =
          entries.map fun entry => entry.assignment ⟨yard.callCount⟩ scope := by
        simp [assignments, Backlog.batch, batch]
      have same : (yard.prepared (.exec scope)).ended? scope = yard.ended? scope := rfl
      rw [begin_exec batch, offered, isTooLate, named]
      cases ended : yard.ended? scope with
      | some reason =>
        rw [beginBatch, query_of_some (same.trans ended)]
        exact kept.places_nothing _ rfl (refusals_note rfl _)
      | none =>
        rw [beginBatch, query_of_none (same.trans ended)]
        obtain ⟨parts, refusals⟩ := places_pollBatch
          ((yard.prepared (.exec scope)).note (.dispatched scope (entries.map Entry.task).length
            yard.timeout)) ⟨yard.callCount⟩
          (taken scope yard.timeout (yard.prepared (.exec scope)).now entries)
        exact ⟨parts, refusals.trans (by rw [refusals_note rfl]; rfl)⟩
  | drain timeout =>
    exact (yard.prepared (.drain timeout)).places_pollDrain ⟨yard.callCount⟩ timeout _
  | watch scope =>
    exact (yard.prepared (.watch scope)).places_pollWatch ⟨yard.callCount⟩ scope

end Yard

end Taskyard

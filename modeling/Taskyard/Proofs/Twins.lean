/-
This file compares a body that is run alone with one that is pushed and run as a
batch of one task. Both ask for the same slot in the same turn, the bodies start
and end together, and everybody else in the yard sees the same slots and the same
line before them. As long as the scope does not end and the timeout of the batch
is not over, both calls are answered in the same poll and with the same. They
differ in two things only: a batch uses up the timeout that was set for the next
batch, and a body alone leaves it to somebody else; and an error of which no
report can be made is a panic in a batch, but is lost if the body is run alone.
-/

import Taskyard.Proofs.Batches
import Taskyard.Proofs.Likeness
import Taskyard.Proofs.Queues
import Taskyard.Proofs.Truthfulness

namespace Taskyard

variable {Body : Type}

/-- The job that an event is about. -/
def Event.job? : Event Body → Option JobId
  | .start id | .finish id _ | .abandon id => some id
  | .tick _ | .openScope _ | .cancel _ | .query _ | .push _ _ _ | .discard _ | .setTimeout _
  | .release | .begin _ | .poll _ | .drop _ => none

/-- The answer to a batch of one task, where a body alone has this one. -/
def Reply.asBatch (task : TaskId) : Reply → Reply
  | .completed output => .executed (some (Outcome.empty.record task output))
  | reply => reply

/-- A body that is run alone, and the task that it would be in a batch. -/
structure Pairing (Body : Type) extends Commission Body where
  task : TaskId
  timeout : Duration
  begun : Duration

namespace Pairing

/-- The batch when it is taken out of the backlog. -/
def batch (pairing : Pairing Body) : Batch Body :=
  Yard.taken pairing.scope pairing.timeout pairing.begun [⟨pairing.task, pairing.body⟩]

/-- The call of the batch, where that of the body alone is this one. -/
def asBatch (pairing : Pairing Body) : Call Body → Call Body
  | .soloQueued _ _ => .batch { pairing.batch with queued := true }
  | .solo _ reply => .batch { pairing.batch with
      unsubmitted := []
      inbox := (reply.map fun output => (pairing.task, output)).toList }
  | call => call

/-- The job of the batch, where that of the body alone is this one. -/
def asMember (pairing : Pairing Body) (job : Job Body) : Job Body :=
  { job with purpose := .member pairing.call pairing.task pairing.scope }

variable {pairing : Pairing Body} {alone batched : Yard Body}

/-- Whether two yards differ only in that a body is run alone in one of them and as a batch in the
other. -/
structure Pairs (pairing : Pairing Body) (alone batched : Yard Body) : Prop where
  alike : (Veil.overCall pairing.call).Alike alone batched
  call : batched.calls.get? pairing.call = (alone.calls.get? pairing.call).map pairing.asBatch
  crew : batched.crew pairing.call = (alone.crew pairing.call).map pairing.asMember

/-- Whether two yards that differ only in this give answers that do. -/
structure Replies (pairing : Pairing Body) (alone batched : Option Reply × Yard Body) : Prop where
  reply : batched.1 = alone.1.map (Reply.asBatch pairing.task)
  pairs : pairing.Pairs alone.2 batched.2

/-! ### The two calls -/

theorem call_overCall (id : CallId) (held : Call Body) :
    (Veil.overCall id).call id held = .watch ⟨0⟩ := if_pos rfl

theorem Pairs.of_keep (alike : (Veil.overCall pairing.call).Alike alone batched)
    (crew : batched.crew pairing.call = (alone.crew pairing.call).map pairing.asMember)
    (held : Call Body) :
    pairing.Pairs (alone.keep pairing.call held)
      (batched.keep pairing.call (pairing.asBatch held)) where
  alike := alike.keep (by rw [call_overCall, call_overCall])
  call := by simp [Yard.keep, Listing.get?_put]
  crew := crew

theorem Pairs.of_drop (alike : (Veil.overCall pairing.call).Alike alone batched)
    (crew : batched.crew pairing.call = (alone.crew pairing.call).map pairing.asMember) :
    pairing.Pairs (alone.drop pairing.call) (batched.drop pairing.call) where
  alike := alike.drop pairing.call
  call := by simp [Yard.drop, Listing.get?_remove]
  crew := crew

/-- What is written of a batch is hidden. -/
theorem alike_written {id : CallId} (alike : (Veil.overCall id).Alike alone batched)
    (journal : List Note) :
    (Veil.overCall id).Alike alone { batched with journal := journal } :=
  { alike with
    journal := by
      have hidden : ∀ notes : List Note, notes.filterMap (Veil.overCall id).note? = [] :=
        fun notes => List.filterMap_eq_nil_iff.mpr fun note _ => by cases note <;> rfl
      rw [hidden, hidden] }

/-- Whether a batch could be waited for: its scope has not ended and its timeout is not over. -/
structure Waits (pairing : Pairing Body) (yard : Yard Body) : Prop where
  going : yard.ended? pairing.scope = none
  ahead : ¬pairing.begun.timer pairing.timeout ≤ yard.now

/-- A batch that is complete when its tasks were submitted is answered. -/
theorem pollBatch_of_complete {yard sent : Yard Body} {id : CallId} {batch held : Batch Body}
    (submitted : yard.submitted id batch = (held, sent)) (done : held.unsubmitted = [])
    (unmanned : sent.isUnmanned id = true) : ∃ journal, yard.pollBatch id batch =
      (some (.executed (some (held.outcome.recordAll held.inbox))),
        { sent with journal := journal }.drop id) := by
  obtain ⟨journal, collected⟩ := Yard.collect_eq held.scope held.inbox sent held.outcome
  have still : { sent with journal := journal }.isUnmanned id = true := unmanned
  unfold Yard.submitted at submitted
  unfold Yard.pollBatch
  rw [submitted]
  simp only [done, List.isEmpty_nil, if_true, collected, still]
  exact ⟨_, rfl⟩

/-- A batch that can be waited for and is not complete goes on. -/
theorem pollBatch_of_going {yard sent : Yard Body} {batch held : Batch Body}
    (submitted : yard.submitted pairing.call batch = (held, sent))
    (goes : ¬(held.unsubmitted = [] ∧ sent.isUnmanned pairing.call = true))
    (scope : held.scope = pairing.scope)
    (deadline : held.deadline = pairing.begun.timer pairing.timeout)
    (waits : pairing.Waits sent) : ∃ journal, yard.pollBatch pairing.call batch =
      (none, { sent with journal := journal }.keep pairing.call (.batch held.looked)) := by
  have cases := Yard.pollBatch_cases yard pairing.call batch
  rw [submitted] at cases
  obtain ⟨complete, -⟩ | ⟨-, journal, goesOn⟩ := cases
  · exact absurd complete goes
  · refine ⟨journal, ?_⟩
    have parts : held.looked.scope = held.scope ∧ held.looked.deadline = held.deadline := by
      unfold Batch.looked
      split <;> exact ⟨rfl, rfl⟩
    rw [goesOn, Yard.awaitBatch, if_neg (by rw [parts.2, deadline]; exact waits.ahead)]
    have going : { sent with journal := journal }.ended? held.looked.scope = none := by
      rw [parts.1, scope]
      exact waits.going
    rw [Yard.query_of_none going]

/-- A body that gets its slot alone, and one that gets it as a batch. -/
theorem Pairs.crew_enlist (pairing : Pairing Body)
    (crew : batched.crew pairing.call = (alone.crew pairing.call).map pairing.asMember)
    (count : alone.jobCount = batched.jobCount) :
    (batched.enlist (.member pairing.call pairing.task pairing.scope) pairing.body).crew
        pairing.call =
      ((alone.enlist (.solo pairing.call) pairing.body).crew pairing.call).map
        pairing.asMember := by
  unfold Yard.crew at crew ⊢
  simp only [Yard.enlist, List.filter_append, List.map_append, crew, count]
  simp [Yard.worksFor, asMember]

theorem isUnmanned_of_crew {yard : Yard Body} {id : CallId} (none : yard.crew id = []) :
    yard.isUnmanned id = true := by
  rw [Yard.isUnmanned_iff, Yard.staff]
  exact List.map_eq_nil_iff.mpr none

/-- While the body runs both calls wait. -/
theorem replies_manned {sent : Yard Body} {batch : Batch Body}
    (submitted : batched.submitted pairing.call batch =
      ({ pairing.batch with unsubmitted := [] }, sent))
    (alike : (Veil.overCall pairing.call).Alike alone sent)
    (crew : sent.crew pairing.call = (alone.crew pairing.call).map pairing.asMember)
    (manned : alone.isUnmanned pairing.call = false) (waits : pairing.Waits sent) :
    pairing.Replies (alone.pollSolo pairing.call pairing.scope none)
      (batched.pollBatch pairing.call batch) := by
  have going : alone.ended? pairing.scope = none :=
    (alike.ended? pairing.scope).trans waits.going
  have alsoManned := (alike.isUnmanned pairing.call).symm.trans manned
  have goes : ¬((([] : List (Entry Body)) = []) ∧ sent.isUnmanned pairing.call = true) := by
    rw [alsoManned]
    exact fun both => Bool.noConfusion both.2
  obtain ⟨journal, waiting⟩ := pollBatch_of_going submitted goes rfl rfl waits
  have asking : alone.pollSolo pairing.call pairing.scope none =
      (none, alone.keep pairing.call (.solo pairing.scope none)) := by
    rw [Yard.pollSolo, Yard.query_of_none going]
  rw [waiting, asking]
  exact ⟨rfl, .of_keep (alike_written alike journal) crew (.solo pairing.scope none)⟩

/-- Asking for the slot of a body alone, or of the only task of a batch, is the same. -/
theorem replies_pollSoloQueued (alike : (Veil.overCall pairing.call).Alike alone batched)
    (nobody : alone.crew pairing.call = []) (none : batched.crew pairing.call = [])
    (waits : pairing.Waits batched) (queued : Bool) :
    pairing.Replies (alone.pollSoloQueued pairing.call pairing.scope pairing.body queued)
      (batched.pollBatch pairing.call { pairing.batch with queued := queued }) := by
  have going : alone.ended? pairing.scope = Option.none :=
    (alike.ended? pairing.scope).trans waits.going
  have crew : batched.crew pairing.call = (alone.crew pairing.call).map pairing.asMember := by
    rw [nobody, none, List.map_nil]
  unfold Yard.pollSoloQueued
  rw [alike.slots]
  rcases asked : batched.slots.turn pairing.call queued with ⟨turn, slots⟩
  have heard := alike.told slots
  cases turn with
  | admitted =>
    have enlisted := heard.enlist
      (show (Veil.overCall pairing.call).purpose (.solo pairing.call) =
        (Veil.overCall pairing.call).purpose (.member pairing.call pairing.task pairing.scope) from
        (if_pos rfl).symm) pairing.body
    refine replies_manned ?_ enlisted (Pairs.crew_enlist pairing crew alike.jobCount)
      (Yard.isUnmanned_enlist _ pairing.call pairing.body) ⟨waits.going, waits.ahead⟩
    simp only [Yard.submitted, batch, Yard.taken, Yard.dispatch, asked]
  | refused error =>
    have submitted : batched.submitted pairing.call { pairing.batch with queued := queued } =
        ({ pairing.batch with
            unsubmitted := []
            outcome := Outcome.empty.record pairing.task (.error (.submit error)) },
          { batched with slots := slots }.note
            (.notSubmitted pairing.scope pairing.task error)) := by
      simp only [Yard.submitted, batch, Yard.taken, Yard.dispatch, asked]
    have unmanned : ({ batched with slots := slots }.note
        (.notSubmitted pairing.scope pairing.task error)).isUnmanned pairing.call = true :=
      isUnmanned_of_crew none
    obtain ⟨journal, complete⟩ := pollBatch_of_complete submitted rfl unmanned
    rw [complete]
    exact ⟨rfl, .of_drop (alike_written heard journal) crew⟩
  | queued =>
    have submitted : batched.submitted pairing.call { pairing.batch with queued := queued } =
        ({ pairing.batch with queued := true }, { batched with slots := slots }) := by
      simp only [Yard.submitted, batch, Yard.taken, Yard.dispatch, asked]
    obtain ⟨journal, goes⟩ := pollBatch_of_going submitted
      (fun both => List.cons_ne_nil _ _ both.1) rfl rfl ⟨waits.going, waits.ahead⟩
    have still : { alone with slots := slots }.ended? pairing.scope = Option.none := going
    rw [goes]
    simp only [Yard.query_of_none still]
    exact ⟨rfl, .of_keep (alike_written heard journal) crew
      (.soloQueued pairing.scope pairing.body)⟩

/-! ### Calls that an event is not about -/

/-- Whether an event leaves a call as it is, with its jobs. -/
structure Leaves (id : CallId) (yard later : Yard Body) : Prop where
  call : later.calls.get? id = yard.calls.get? id
  crew : later.crew id = yard.crew id

theorem leaves_places {yard : Yard Body} {id other : CallId} {queued : Bool}
    {assignments : List (Assignment Body)} {result : Option Reply × Yard Body}
    (places : yard.Places other queued assignments result) (apart : id ≠ other)
    (own : ∀ assignment ∈ assignments, ∀ patron, assignment.purpose.patron? = some patron →
      patron = other) : Leaves id yard result.2 :=
  ⟨places.others apart, places.crew apart own⟩

/-- What is about another call and about no body leaves a call as it is. -/
theorem leaves_step {yard : Yard Body} {id : CallId} (kept : yard.Kept)
    (known : id.serial < yard.callCount) {event : Event Body} (apart : event.call? ≠ some id)
    (jobless : event.job? = none) : Leaves id yard (yard.step event) := by
  cases event with
  | tick moment =>
    obtain ⟨now, -, moved⟩ := Yard.advanceTo_eq yard moment
    rw [Yard.step, moved]
    exact ⟨rfl, rfl⟩
  | push scope label body =>
    obtain ⟨scopes, backlog, taskCount, journal, -, pushed⟩ := Yard.push_eq yard scope label body
    rw [Yard.step, pushed]
    exact ⟨rfl, rfl⟩
  | begin request =>
    have other : id ≠ ⟨yard.callCount⟩ := fun same => by simp [same] at known
    obtain ⟨call, crew⟩ := leaves_places (kept.places_begin request) other
      fun assignment member patron works => Yard.patron_of_mem_offered member works
    rw [Yard.calls_prepared] at call
    exact ⟨call, crew.trans (by rw [Yard.crew, Yard.jobs_prepared, Yard.crew])⟩
  | poll other =>
    cases found : yard.calls.get? other with
    | none =>
      rw [Yard.step, Yard.poll_of_absent found]
      exact ⟨rfl, rfl⟩
    | some call =>
      exact leaves_places (Yard.places_poll found) (fun same => apart (congrArg some same.symm))
        fun assignment member patron works => Call.patron_of_mem_assignments member works
  | drop other =>
    have different : id ≠ other := fun same => apart (congrArg some same.symm)
    exact ⟨by simp [Yard.step, Yard.drop, Listing.get?_remove, different], rfl⟩
  | start | finish | abandon => cases jobless
  | openScope | cancel | query | discard | setTimeout | release => exact ⟨rfl, rfl⟩

/-- A body ends that is of another call. -/
theorem leaves_finish {yard : Yard Body} {id : CallId} (inOrder : yard.InOrder) (job : JobId)
    (ending : Ending) (foreign : ∀ own ∈ yard.crew id, own.id = job → own.started = false) :
    Leaves id yard (yard.finishJob job ending) := by
  rcases inOrder.finished job ending with same | ⟨other, member, about, started, retired⟩
  · rw [same]
    exact ⟨rfl, rfl⟩
  · have apart : other.purpose.patron? ≠ some id := fun works => by
      have idle := foreign other (List.mem_filter.mpr ⟨member, Yard.worksFor_iff.mpr works⟩) about
      rw [started] at idle
      cases idle
    exact ⟨(retired.calls id).trans (if_neg apart), retired.crew_of_foreign apart⟩

/-- A body of a batch is dropped, but none of a call whose bodies have no reason to be. -/
theorem leaves_abandon {yard : Yard Body} {id : CallId} (inOrder : yard.InOrder) (job : JobId)
    (going : ∀ own ∈ yard.crew id, yard.overtaken? own = none) :
    Leaves id yard (yard.abandonJob job) := by
  rcases inOrder.abandoned job with
    same | ⟨other, member, -, call, task, scope, reason, purpose, ended, retired⟩
  · rw [same]
    exact ⟨rfl, rfl⟩
  · have apart : other.purpose.patron? ≠ some id := fun works => by
      have goes := going other (List.mem_filter.mpr ⟨member, Yard.worksFor_iff.mpr works⟩)
      rw [Yard.overtaken?, purpose] at goes
      cases ended.symm.trans goes
    exact ⟨(retired.calls id).trans (if_neg apart), retired.crew_of_foreign apart⟩

theorem Pairs.leave {left went : Yard Body} (pairs : pairing.Pairs alone batched)
    (alike : (Veil.overCall pairing.call).Alike left went)
    (leaves : Leaves pairing.call alone left) (alsoLeaves : Leaves pairing.call batched went) :
    pairing.Pairs left went where
  alike := alike
  call := by rw [leaves.call, alsoLeaves.call, pairs.call]
  crew := by rw [leaves.crew, alsoLeaves.crew, pairs.crew]

/-! ### Any event -/

/-- The call of the batch is answered once its body has ended. -/
theorem poll_of_heard {yard : Yard Body} {output : Output}
    (call : yard.calls.get? pairing.call = some (.batch { pairing.batch with
      unsubmitted := []
      inbox := [(pairing.task, output)] })) (nobody : yard.crew pairing.call = []) :
    ∃ journal, yard.poll pairing.call =
      (some (.executed (some (Outcome.empty.record pairing.task output))),
        { yard with journal := journal }.drop pairing.call) := by
  have submitted : yard.submitted pairing.call
      { pairing.batch with unsubmitted := [], inbox := [(pairing.task, output)] } =
        ({ pairing.batch with unsubmitted := [], inbox := [(pairing.task, output)] }, yard) := rfl
  obtain ⟨journal, complete⟩ := pollBatch_of_complete submitted rfl (isUnmanned_of_crew nobody)
  exact ⟨journal, (Yard.poll_of_batch call).trans complete⟩

/-- The two calls are polled. -/
theorem Pairs.poll {stage : Stage} (pairs : pairing.Pairs alone batched)
    (stands : pairing.toCommission.StandsAt stage alone)
    (inOrder : alone.InOrder)
    (waits : (alone.calls.get? pairing.call).isSome → pairing.Waits batched) :
    pairing.Replies (alone.poll pairing.call) (batched.poll pairing.call) := by
  obtain ⟨alike, call, crew⟩ := pairs
  have found := stands.call
  rw [found] at call waits
  have absent : pairing.toCommission.call? stage = none →
      pairing.Replies (alone.poll pairing.call) (batched.poll pairing.call) := by
    intro missing
    rw [missing] at found call
    rw [Yard.poll_of_absent found, Yard.poll_of_absent call]
    exact ⟨rfl, alike, by rw [found, call], crew⟩
  cases stage with
  | waiting =>
    have asking : alone.poll pairing.call =
        alone.pollSoloQueued pairing.call pairing.scope pairing.body true := by
      rw [Yard.poll, found]
      rfl
    rw [asking, Yard.poll_of_batch call]
    refine replies_pollSoloQueued alike stands.crew ?_ (waits rfl) true
    rw [crew, stands.crew]
    rfl
  | placed job started listening =>
    cases listening with
    | false => exact absent rfl
    | true =>
      have asking : alone.poll pairing.call =
          alone.pollSolo pairing.call pairing.scope none := by
        rw [Yard.poll, found]
        rfl
      rw [asking, Yard.poll_of_batch call]
      exact replies_manned rfl alike crew (Yard.isUnmanned_of_solo inOrder found) (waits rfl)
  | done job output listening =>
    cases listening with
    | false => exact absent rfl
    | true =>
      obtain ⟨journal, complete⟩ := poll_of_heard call (by rw [crew, stands.crew]; rfl)
      rw [Yard.poll_of_heard found]
      refine complete ▸ ⟨rfl, .of_drop (alike_written alike journal) crew⟩
  | gone => exact absent rfl

/-- A body starts. -/
theorem Pairs.start (pairs : pairing.Pairs alone batched) (job : JobId) :
    pairing.Pairs (alone.startJob job) (batched.startJob job) where
  alike := pairs.alike.startJob job
  call := pairs.call
  crew := by
    rw [Yard.crew_startJob, Yard.crew_startJob, pairs.crew, List.map_map, List.map_map]
    refine List.map_congr_left fun held _ => ?_
    by_cases about : held.id = job
    · simp [asMember, about]
    · simp [asMember, about]

/-- What the two calls, if they are there, hear when their bodies end. -/
structure Heard (pairing : Pairing Body) (call? : Option (Call Body)) (ending : Ending)
    (alone batched : Yard Body) : Prop where
  crew : alone.crew pairing.call = []
  call : alone.calls.get? pairing.call =
    call?.map fun _ => .solo pairing.scope (some ending.reply)
  alsoCrew : batched.crew pairing.call = []
  alsoCall : batched.calls.get? pairing.call = call?.map fun _ => .batch { pairing.batch with
    unsubmitted := []
    inbox := [(pairing.task, ending.output)] }

theorem Pairs.heard {stage : Stage} (pairs : pairing.Pairs alone batched)
    (stands : pairing.toCommission.StandsAt stage alone) (inOrder : alone.InOrder)
    (alsoInOrder : batched.InOrder) {job : JobId}
    (running : pairing.toCommission.job job true ∈ alone.jobs) (ending : Ending) :
    pairing.Heard (alone.calls.get? pairing.call) ending (alone.finishJob job ending)
      (batched.finishJob job ending) := by
  have member : pairing.toCommission.job job true ∈ alone.crew pairing.call :=
    List.mem_filter.mpr ⟨running, Yard.worksFor_iff.mpr rfl⟩
  obtain ⟨id, going, listening, rfl, same⟩ := Commission.placed_of_mem (stands.crew ▸ member)
  cases same
  have also : pairing.asMember (pairing.toCommission.job job true) ∈
      batched.crew pairing.call := by
    rw [pairs.crew]
    exact List.mem_map_of_mem member
  have single : batched.crew pairing.call =
      [pairing.asMember (pairing.toCommission.job job true)] := by
    rw [pairs.crew, stands.crew]
    rfl
  have retired := inOrder.retires running rfl ending
  have alsoRetired := alsoInOrder.retires (List.mem_of_mem_filter also) rfl ending
  have call := pairs.call
  have told := (retired.calls pairing.call).trans (if_pos rfl)
  have alsoTold := (alsoRetired.calls pairing.call).trans (if_pos rfl)
  rw [stands.call] at call told
  rw [call] at alsoTold
  rw [stands.call]
  exact {
    crew := (retired.crew_of_own rfl stands.crew).2
    call := told.trans (by cases listening <;> rfl)
    alsoCrew := (alsoRetired.crew_of_own rfl single).2
    alsoCall := alsoTold.trans (by cases listening <;> rfl) }

/-- A body ends, and if it is the one that is run in both ways, a report can be made of its
error. -/
theorem Pairs.finish {stage : Stage} (pairs : pairing.Pairs alone batched)
    (stands : pairing.toCommission.StandsAt stage alone) (inOrder : alone.InOrder)
    (alsoInOrder : batched.InOrder) (job : JobId) (ending : Ending)
    (reportable : ∀ payload, ending = .unreported payload →
      pairing.toCommission.job job true ∉ alone.jobs) :
    pairing.Pairs (alone.finishJob job ending) (batched.finishJob job ending) := by
  have alike := pairs.alike.finishJob job ending ending
  by_cases own : ∃ held ∈ alone.crew pairing.call, held.id = job ∧ held.started = true
  · obtain ⟨held, member, rfl, started⟩ := own
    obtain ⟨id, going, listening, rfl, rfl⟩ := Commission.placed_of_mem (stands.crew ▸ member)
    obtain rfl : going = true := started
    have running := List.mem_of_mem_filter member
    have same : ending.reply = ending.output := by
      cases ending with
      | unreported payload => exact absurd running (reportable payload rfl)
      | _ => rfl
    have heard := pairs.heard stands inOrder alsoInOrder running ending
    refine ⟨alike, heard.alsoCall.trans ?_, ?_⟩
    · refine Eq.trans ?_ (congrArg (Option.map pairing.asBatch) heard.call).symm
      rw [Option.map_map, same]
      rfl
    · exact heard.alsoCrew.trans (congrArg (List.map pairing.asMember) heard.crew).symm
  · refine pairs.leave alike (leaves_finish inOrder job ending ?_)
      (leaves_finish alsoInOrder job ending ?_)
    · intro held member about
      exact Bool.eq_false_iff.mpr fun started => own ⟨held, member, about, started⟩
    · intro held member about
      rw [pairs.crew] at member
      obtain ⟨twin, listed, rfl⟩ := List.mem_map.mp member
      exact Bool.eq_false_iff.mpr fun started => own ⟨twin, listed, about, started⟩

/-- The body alone is never dropped, nor is the task as long as its scope has not ended. -/
theorem Pairs.spared {stage : Stage} (pairs : pairing.Pairs alone batched)
    (stands : pairing.toCommission.StandsAt stage alone)
    (going : alone.ended? pairing.scope = none) :
    (∀ own ∈ alone.crew pairing.call, alone.overtaken? own = none) ∧
      ∀ own ∈ batched.crew pairing.call, batched.overtaken? own = none := by
  refine ⟨fun own member => ?_, fun own member => ?_⟩
  · rw [stands.crew] at member
    obtain ⟨id, started, listening, -, rfl⟩ := Commission.placed_of_mem member
    rfl
  · rw [pairs.crew] at member
    obtain ⟨twin, -, rfl⟩ := List.mem_map.mp member
    exact (pairs.alike.ended? pairing.scope).symm.trans going

theorem abandonJob_of_going {yard : Yard Body} {id : JobId}
    (going : ∀ held, yard.job? id = some held → yard.overtaken? held = none) :
    yard.abandonJob id = yard := by
  unfold Yard.abandonJob
  cases found : yard.job? id with
  | none => rfl
  | some held =>
    have goes := going held found
    unfold Yard.overtaken? at goes
    cases purpose : held.purpose with
    | errand | solo => simp only [purpose]
    | member call task scope =>
      rw [purpose] at goes
      simp only [purpose, Yard.query_of_none goes]

theorem Pairs.abandon {stage : Stage} (pairs : pairing.Pairs alone batched)
    (stands : pairing.toCommission.StandsAt stage alone) (inOrder : alone.InOrder)
    (alsoInOrder : batched.InOrder) (going : alone.ended? pairing.scope = none) (job : JobId) :
    pairing.Pairs (alone.abandonJob job) (batched.abandonJob job) := by
  obtain ⟨spared, alsoSpared⟩ := pairs.spared stands going
  refine pairs.leave ?_ (leaves_abandon inOrder job spared)
    (leaves_abandon alsoInOrder job alsoSpared)
  by_cases own : ∃ held, alone.job? job = some held ∧ held.purpose.patron? = some pairing.call
  · obtain ⟨held, found, works⟩ := own
    rw [abandonJob_of_going, abandonJob_of_going]
    · exact pairs.alike
    · intro twin there
      have same := pairs.alike.job? job
      rw [found, there] at same
      have patrons := congrArg (Purpose.patron? ∘ Job.purpose) (Option.some.inj same)
      simp only [Function.comp_apply, Veil.job, Veil.patron?_purpose] at patrons
      refine alsoSpared twin (List.mem_filter.mpr ⟨(Yard.mem_of_job? there).1, ?_⟩)
      exact Yard.worksFor_iff.mpr (patrons.symm.trans works)
    · intro same there
      rw [found] at there
      cases there
      exact spared held
        (List.mem_filter.mpr ⟨(Yard.mem_of_job? found).1, Yard.worksFor_iff.mpr works⟩)
  · refine pairs.alike.abandonJob job fun held found call works masked => own ⟨held, found, ?_⟩
    exact works.trans masked.symm

/-- Whatever happens to both yards, they go on to differ only in this. -/
theorem Pairs.step {stage : Stage} (pairs : pairing.Pairs alone batched)
    (stands : pairing.toCommission.StandsAt stage alone) (kept : alone.Kept)
    (alsoKept : batched.Kept) (event : Event Body)
    (timed : ∀ scope, event = .begin (.exec scope) → alone.timeout = batched.timeout)
    (going : alone.ended? pairing.scope = none)
    (waits : (alone.calls.get? pairing.call).isSome → pairing.Waits batched)
    (reportable : ∀ job payload, event = .finish job (.unreported payload) →
      pairing.toCommission.job job true ∉ alone.jobs) :
    pairing.Pairs (alone.step event) (batched.step event) := by
  have known := stands.known
  have alsoKnown := pairs.alike.callCount ▸ known
  by_cases own : event.call? = some pairing.call
  · cases event with
    | poll id =>
      cases own
      exact (pairs.poll stands kept.inOrder waits).pairs
    | drop id =>
      cases own
      exact .of_drop pairs.alike pairs.crew
    | _ => cases own
  · cases about : event.job? with
    | some job =>
      cases event with
      | start id => exact pairs.start id
      | finish id ending =>
        refine pairs.finish stands kept.inOrder alsoKept.inOrder id ending fun payload same => ?_
        exact reportable id payload (congrArg (Event.finish id) same)
      | abandon id => exact pairs.abandon stands kept.inOrder alsoKept.inOrder going id
      | _ => cases about
    | none =>
      refine pairs.leave ?_ (leaves_step kept known own about)
        (leaves_step alsoKept alsoKnown own about)
      refine pairs.alike.step event timed (fun call polls masked => own ?_) fun id abandons => ?_
      · rw [polls]
        exact masked.symm
      · rw [abandons] at about
        cases about

/-! ### What everybody sees -/

/-- The same calls are ready. -/
theorem Pairs.isReady {stage : Stage} (pairs : pairing.Pairs alone batched)
    (stands : pairing.toCommission.StandsAt stage alone) (inOrder : alone.InOrder)
    (waits : (alone.calls.get? pairing.call).isSome → pairing.Waits batched) (id : CallId) :
    batched.isReady id = alone.isReady id := by
  obtain ⟨alike, call, -⟩ := pairs
  by_cases own : id = pairing.call
  · subst own
    have found := stands.call
    rw [found] at call waits
    unfold Yard.isReady
    rw [found, call]
    cases stage with
    | waiting =>
      obtain ⟨going, ahead⟩ := waits rfl
      have goes := (alike.ended? pairing.scope).trans going
      show batched.wouldProgress pairing.call (.batch { pairing.batch with queued := true }) =
        alone.wouldProgress pairing.call (.soloQueued pairing.scope pairing.body)
      simp [Yard.wouldProgress, batch, Yard.taken, going, goes, ahead, alike.slots]
    | placed job started listening =>
      cases listening with
      | false => rfl
      | true =>
        obtain ⟨going, ahead⟩ := waits rfl
        have goes := (alike.ended? pairing.scope).trans going
        have manned : batched.isUnmanned pairing.call = false :=
          (alike.isUnmanned pairing.call).symm.trans (Yard.isUnmanned_of_solo inOrder found)
        show batched.wouldProgress pairing.call
            (.batch { pairing.batch with unsubmitted := [], inbox := [] }) =
          alone.wouldProgress pairing.call (.solo pairing.scope none)
        simp [Yard.wouldProgress, batch, Yard.taken, going, goes, ahead, manned]
    | done job output listening => cases listening <;> rfl
    | gone => rfl
  · exact (alike.isReady fun masked => own (Option.some.inj masked).symm).symm

/-- Through the veil a body of the call looks like one that is run alone, which is never dropped. As
long as it would not be dropped anyhow, this makes no difference to what could happen to it. -/
theorem any_canTurn_seen {yard other : Yard Body} {id : CallId}
    (told : ∀ scope, yard.ended? scope = other.ended? scope)
    (spared : ∀ own ∈ yard.crew id, yard.overtaken? own = none) :
    (yard.jobs.map (Veil.overCall id).job).any other.canTurn = yard.jobs.any yard.canTurn := by
  have same : ∀ held ∈ yard.jobs,
      other.canTurn ((Veil.overCall id).job held) = yard.canTurn held := by
    intro held member
    obtain ⟨job, purpose, body, started⟩ := held
    cases purpose with
    | errand | solo => rfl
    | member call task scope =>
      simp only [Yard.canTurn, Veil.job, Veil.purpose, Yard.overtaken?, told scope]
      by_cases own : (Veil.overCall id).masked = some call
      · have idle := spared _ (List.mem_filter.mpr ⟨member, Yard.worksFor_iff.mpr own.symm⟩)
        simp only [Yard.overtaken?, told scope] at idle
        simp [own, idle]
      · simp [own]
  rw [List.any_map, Bool.eq_iff_iff, List.any_eq_true, List.any_eq_true]
  constructor
  · rintro ⟨held, member, turns⟩
    exact ⟨held, member, (same held member).symm.trans turns⟩
  · rintro ⟨held, member, turns⟩
    exact ⟨held, member, (same held member).trans turns⟩

/-- The same bodies could start or be dropped. -/
theorem Pairs.any_canTurn {stage : Stage} (pairs : pairing.Pairs alone batched)
    (stands : pairing.toCommission.StandsAt stage alone)
    (going : alone.ended? pairing.scope = none) :
    batched.jobs.any batched.canTurn = alone.jobs.any alone.canTurn := by
  obtain ⟨spared, alsoSpared⟩ := pairs.spared stands going
  rw [← any_canTurn_seen (fun _ => rfl) spared,
    ← any_canTurn_seen (fun scope => (pairs.alike.ended? scope).symm) alsoSpared,
    pairs.alike.jobs]

/-- A yard is quiet when no call is ready and no body could start or be dropped. -/
theorem isQuiet_iff {yard : Yard Body} (inOrder : yard.InOrder) : yard.isQuiet = true ↔
    (∀ id, yard.isReady id = false) ∧ yard.jobs.any yard.canTurn = false := by
  rw [Yard.isQuiet, Bool.and_eq_true, Bool.not_eq_true', Bool.not_eq_true', List.any_eq_false]
  refine and_congr_left fun _ => ⟨fun still id => ?_, fun still entry listed progress => ?_⟩
  · unfold Yard.isReady
    cases found : yard.calls.get? id with
    | none => rfl
    | some call =>
      have listed := (Listing.get?_eq_some_iff inOrder.callsDistinct).mp found
      exact Bool.eq_false_iff.mpr (still (id, call) listed)
  · have found := (Listing.get?_eq_some_iff inOrder.callsDistinct).mpr listed
    have idle := still entry.1
    rw [Yard.isReady, found] at idle
    simp [progress] at idle

/-- Both yards are quiet, or none is. -/
theorem Pairs.isQuiet {stage : Stage} (pairs : pairing.Pairs alone batched)
    (stands : pairing.toCommission.StandsAt stage alone) (kept : alone.Kept)
    (alsoKept : batched.Kept)
    (waits : (alone.calls.get? pairing.call).isSome → pairing.Waits batched)
    (going : alone.ended? pairing.scope = none) :
    batched.isQuiet = alone.isQuiet := by
  rw [Bool.eq_iff_iff, isQuiet_iff kept.inOrder, isQuiet_iff alsoKept.inOrder,
    pairs.any_canTurn stands going]
  simp only [pairs.isReady stands kept.inOrder waits]

end Pairing

namespace Yard

variable {yard : Yard Body} {scope : ScopeId} {label : String} {body : Body}
  {later : List (Event Body)}

/-! ### One after the other -/

/-- A body that is run alone under a scope, and the task that it would be in a batch. -/
def pairing (yard : Yard Body) (scope : ScopeId) (label : String) (body : Body) :
    Pairing Body where
  toCommission := yard.commission scope body
  task := ⟨yard.taskCount, label⟩
  timeout := yard.timeout
  begun := yard.now

/-- The yard once a body was asked to be run alone. -/
def runAlone (yard : Yard Body) (scope : ScopeId) (body : Body) : Yard Body :=
  yard.step (.begin (.submitTask scope body))

/-- The yard once the body was pushed and the batch asked to be run. -/
def runAsBatch (yard : Yard Body) (scope : ScopeId) (label : String) (body : Body) : Yard Body :=
  (yard.step (.push scope label body)).step (.begin (.exec scope))

/-- Whether a body that is asked to be run is left to itself by what happens later, and a report can
be made of its error, if it ends with one. -/
structure Spares (yard : Yard Body) (scope : ScopeId) (body : Body) (later : List (Event Body)) :
    Prop where
  /-- The scope does not end. -/
  going : yard.ended? scope = none
  goesOn : ∀ earlier, earlier <+: later →
    ((yard.runAlone scope body).after earlier).ended? scope = none
  /-- The timeout of the next batch is not over before the call is. -/
  positive : yard.now < yard.now.timer yard.timeout
  ahead : ∀ earlier, earlier <+: later →
    (((yard.runAlone scope body).after earlier).calls.get? ⟨yard.callCount⟩).isSome →
    ((yard.runAlone scope body).after earlier).now < yard.now.timer yard.timeout
  reportable : ∀ job payload, ¬(yard.commission scope body).EndsAs (yard.runAlone scope body) later
    job (.unreported payload)

/-- Whether the timeout of the next batch, if it is not the default, is set anew before another
batch is run. -/
def Resets (yard : Yard Body) (later : List (Event Body)) : Prop :=
  ∀ earlier under rest, later = earlier ++ .begin (.exec under) :: rest →
    yard.timeout = yard.options.taskTimeout ∨ ∃ timeout, .setTimeout timeout ∈ earlier

/-- Whether it makes no difference that a body is run as a batch. -/
structure RunsAsAlone (yard : Yard Body) (scope : ScopeId) (label : String) (body : Body)
    (later : List (Event Body)) : Prop where
  /-- The same answer is given at once, or none. -/
  atOnce : ((yard.step (.push scope label body)).begin (.exec scope)).2.1 =
    (yard.begin (.submitTask scope body)).2.1.map (Reply.asBatch ⟨yard.taskCount, label⟩)
  /-- The same answer is given in a poll at this point, or none. -/
  inPoll : (((yard.runAsBatch scope label body).after later).poll ⟨yard.callCount⟩).1 =
    (((yard.runAlone scope body).after later).poll ⟨yard.callCount⟩).1.map
      (Reply.asBatch ⟨yard.taskCount, label⟩)
  /-- At this point the clock shows the same, and as many bodies run and submitters wait. -/
  now : ((yard.runAsBatch scope label body).after later).now =
    ((yard.runAlone scope body).after later).now
  running : ((yard.runAsBatch scope label body).after later).slots.running =
    ((yard.runAlone scope body).after later).slots.running
  waiting : ((yard.runAsBatch scope label body).after later).slots.waiting =
    ((yard.runAlone scope body).after later).slots.waiting
  /-- The same calls are ready, and the yard is quiet if it would be otherwise. -/
  ready : ∀ id, ((yard.runAsBatch scope label body).after later).isReady id =
    ((yard.runAlone scope body).after later).isReady id
  quiet : ((yard.runAsBatch scope label body).after later).isQuiet =
    ((yard.runAlone scope body).after later).isQuiet
  /-- If the body ends at this point with an error of which no report can be made, and its call is
  still there, the answers part: the error is lost if the body is run alone, and a panic in a
  batch. -/
  parts : ∀ job payload, (yard.commission scope body).job job true ∈
      ((yard.runAlone scope body).after later).jobs →
    (((yard.runAlone scope body).after later).calls.get? ⟨yard.callCount⟩).isSome →
    ((((yard.runAlone scope body).after later).finishJob job (.unreported payload)).poll
      ⟨yard.callCount⟩).1 = some (.completed (.error (.submit .closed))) ∧
    ((((yard.runAsBatch scope label body).after later).finishJob job (.unreported payload)).poll
      ⟨yard.callCount⟩).1 = some (.executed (some
        (Outcome.empty.record ⟨yard.taskCount, label⟩ (.error (.panicked payload.text)))))

/-- Everything begins alike. -/
theorem Kept.replies_begin (kept : yard.Kept) (unclosed : ¬yard.slots.closed = true)
    (nothing : yard.backlog.batches.get? scope = none)
    (waits : (yard.pairing scope label body).Waits yard) :
    (yard.pairing scope label body).Replies (yard.begin (.submitTask scope body)).2
      ((yard.step (.push scope label body)).begin (.exec scope)).2 := by
  have going : yard.ended? scope = Option.none := waits.going
  obtain ⟨-, unstaffed, -⟩ := kept.inOrder.fresh
  have nobody : (yard.prepared (.submitTask scope body)).crew ⟨yard.callCount⟩ = [] :=
    List.map_eq_nil_iff.mp unstaffed
  have none : ((yard.store scope label body).2.prepared (.exec scope)).crew ⟨yard.callCount⟩ =
      [] := nobody
  rw [begin_submitTask_of_going going, Yard.step, push_of_open going unclosed]
  have batch : (yard.store scope label body).2.backlog.batches.get? scope =
      some [⟨⟨yard.taskCount, label⟩, body⟩] := by
    simp [store, Yard.note, Backlog.push, Backlog.batch, Listing.get?_put, nothing]
  have still : ((yard.store scope label body).2.prepared (.exec scope)).ended? scope =
      Option.none := going
  rw [begin_exec batch, beginBatch, query_of_none still]
  have restored : (yard.backlog.push scope ⟨⟨yard.taskCount, label⟩, body⟩).remove scope =
      yard.backlog := by
    rw [Backlog.push, Backlog.remove, Listing.remove_put,
      Listing.remove_of_not_mem (Listing.get?_eq_none_iff.mp nothing)]
  have alike : (Veil.overCall ⟨yard.callCount⟩).Alike (yard.prepared (.submitTask scope body))
      ((yard.store scope label body).2.prepared (.exec scope)) := by
    refine ⟨rfl, rfl, rfl, rfl, ?_, rfl, rfl, rfl, rfl, rfl, ?_⟩
    · exact congrArg (fun backlog : Backlog Body => backlog.batches.seen _) restored.symm
    · exact (Pairing.alike_written (.refl yard) _).journal
  let dispatched := ((yard.store scope label body).2.prepared (.exec scope)).note
    (.dispatched scope 1 yard.timeout)
  have looks : (Veil.overCall ⟨yard.callCount⟩).Alike (yard.prepared (.submitTask scope body))
      dispatched := Pairing.alike_written alike _
  have waiting : (yard.pairing scope label body).Waits dispatched := ⟨waits.going, waits.ahead⟩
  exact Pairing.replies_pollSoloQueued looks nobody none waiting false

/-- The timeout of the next batch is the same, if it was the default or is set anew. -/
theorem Kept.timeout_runs (kept : yard.Kept) (earlier : List (Event Body))
    (timed : yard.timeout = yard.options.taskTimeout ∨ ∃ timeout, .setTimeout timeout ∈ earlier) :
    ((yard.runAlone scope body).after earlier).timeout =
      ((yard.runAsBatch scope label body).after earlier).timeout := by
  have keptAlone := kept.step (.begin (.submitTask scope body))
  have keptPushed := kept.step (.push scope label body)
  have keptBatch := keptPushed.step (.begin (.exec scope))
  have options := (kept.capacity_step (.push scope label body)).1
  induction earlier using List.reverseRecOn with
  | nil =>
    rcases timed with default | ⟨timeout, none⟩
    · have alone := kept.timeout_step (.begin (.submitTask scope body))
      have batch := keptPushed.timeout_step (.begin (.exec scope))
      have same := congrArg Options.taskTimeout options
      exact alone.trans (default.trans (same.symm.trans batch.symm))
    · cases none
  | append_singleton earlier event inductionHypothesis =>
    have alone := (keptAlone.after earlier).timeout_step event
    have batch := (keptBatch.after earlier).timeout_step event
    rw [after_concat, after_concat]
    refine alone.trans (Eq.trans ?_ batch.symm)
    have same : ((yard.runAlone scope body).after earlier).options =
        ((yard.runAsBatch scope label body).after earlier).options := by
      rw [runAlone, keptAlone.options_after, (kept.capacity_step _).1, runAsBatch,
        keptBatch.options_after, (keptPushed.capacity_step _).1, options]
    have before : (yard.timeout = yard.options.taskTimeout ∨
        ∃ timeout, .setTimeout timeout ∈ earlier) → _ := fun timed =>
      timeoutAfter_congr (inductionHypothesis timed) same event
    rcases timed with default | ⟨timeout, set⟩
    · exact before (.inl default)
    · rcases List.mem_append.mp set with earlier | last
      · exact before (.inr ⟨timeout, earlier⟩)
      · rw [← List.mem_singleton.mp last]
        rfl

theorem Spares.earlier {event : Event Body} (spares : yard.Spares scope body (later ++ [event])) :
    yard.Spares scope body later where
  going := spares.going
  goesOn earlier front := spares.goesOn earlier (front.trans (List.prefix_append _ _))
  positive := spares.positive
  ahead earlier front := spares.ahead earlier (front.trans (List.prefix_append _ _))
  reportable job payload ends := spares.reportable job payload (ends.append _)

theorem Resets.earlier {event : Event Body} (resets : yard.Resets (later ++ [event])) :
    yard.Resets later := fun earlier under rest split =>
  resets earlier under (rest ++ [event]) (by rw [split, List.append_assoc, List.cons_append])

/-- A batch of the body could be waited for. -/
theorem Spares.waits (spares : yard.Spares scope body later) {batched : Yard Body}
    (alike : (Veil.overCall ⟨yard.callCount⟩).Alike ((yard.runAlone scope body).after later)
      batched)
    (underWay : (((yard.runAlone scope body).after later).calls.get? ⟨yard.callCount⟩).isSome) :
    (yard.pairing scope label body).Waits batched where
  going := (alike.ended? scope).symm.trans (spares.goesOn later List.prefix_rfl)
  ahead := by
    rw [← alike.now]
    exact Duration.not_le.mpr (spares.ahead later List.prefix_rfl underWay)

/-- How far the body that is run alone has come. -/
theorem Kept.stands_runAlone (kept : yard.Kept) (scope : ScopeId) (body : Body)
    (later : List (Event Body)) :
    ∃ stage, (yard.commission scope body).StandsAt stage
      ((yard.runAlone scope body).after later) := by
  obtain ⟨stage, comes⟩ := kept.comes_between scope body later
  exact ⟨stage, comes.stands⟩

/-- Whatever happens later, the yards differ only in how the body is run. -/
theorem Kept.pairs_after (kept : yard.Kept) (unclosed : ¬yard.slots.closed = true)
    (nothing : yard.backlog.batches.get? scope = none) (spares : yard.Spares scope body later)
    (resets : yard.Resets later) :
    (yard.pairing scope label body).Pairs ((yard.runAlone scope body).after later)
      ((yard.runAsBatch scope label body).after later) := by
  have keptAlone := kept.step (.begin (.submitTask scope body))
  have keptBatch := (kept.step (.push scope label body)).step (.begin (.exec scope))
  induction later using List.reverseRecOn with
  | nil =>
    exact (kept.replies_begin unclosed nothing
      ⟨spares.going, Duration.not_le.mpr spares.positive⟩).pairs
  | append_singleton earlier event inductionHypothesis =>
    have pairs := inductionHypothesis spares.earlier resets.earlier
    obtain ⟨stage, stands⟩ := kept.stands_runAlone scope body earlier
    have going := spares.goesOn earlier (List.prefix_append _ _)
    rw [after_concat, after_concat]
    refine pairs.step stands (keptAlone.after earlier) (keptBatch.after earlier) event ?_ going
      (spares.earlier.waits pairs.alike) ?_
    · rintro under rfl
      exact kept.timeout_runs earlier (resets earlier under [] rfl)
    · rintro job payload rfl running
      exact spares.reportable job payload ⟨earlier, [], rfl, running⟩

/-- It makes no difference that a body is run as a batch, if others do not get its timeout. -/
theorem runsAsAlone {options : Options} (reached : Reached options yard)
    (unclosed : yard.slots.closed = false) (fresh : yard.pending scope = 0)
    (spares : yard.Spares scope body later) (resets : yard.Resets later) :
    yard.RunsAsAlone scope label body later := by
  obtain ⟨kept, -⟩ := reached.kept
  have unclosed : ¬yard.slots.closed = true := Bool.eq_false_iff.mp unclosed
  have nothing : yard.backlog.batches.get? scope = none := by
    obtain ⟨start, history, opened, rfl⟩ := reached
    rw [pending, backlog_of_history opened] at fresh
    rw [backlog_of_history opened, (Backlog.trim_used _).get?,
      if_pos (List.length_eq_zero_iff.mp fresh)]
  have keptAlone := (kept.step (.begin (.submitTask scope body))).after later
  have keptBatch := ((kept.step (.push scope label body)).step (.begin (.exec scope))).after later
  have pairs : (yard.pairing scope label body).Pairs _ _ :=
    kept.pairs_after unclosed nothing spares resets
  have waits : _ → (yard.pairing scope label body).Waits _ := spares.waits pairs.alike
  obtain ⟨stage, stands⟩ := kept.stands_runAlone scope body later
  exact {
    atOnce := (kept.replies_begin unclosed nothing
      ⟨spares.going, Duration.not_le.mpr spares.positive⟩).reply
    inPoll := (pairs.poll stands keptAlone.inOrder waits).reply
    now := pairs.alike.now.symm
    running := congrArg Slots.running pairs.alike.slots.symm
    waiting := congrArg Slots.waiting pairs.alike.slots.symm
    ready := pairs.isReady stands keptAlone.inOrder waits
    quiet := pairs.isQuiet stands keptAlone keptBatch waits (spares.goesOn later List.prefix_rfl)
    parts := fun job payload running there => by
      have heard := pairs.heard stands keptAlone.inOrder keptBatch.inOrder running
        (.unreported payload)
      obtain ⟨held, found⟩ := Option.isSome_iff_exists.mp there
      have call := heard.call.trans (congrArg _ found)
      have alsoCall := heard.alsoCall.trans (congrArg _ found)
      obtain ⟨journal, answered⟩ := Pairing.poll_of_heard alsoCall heard.alsoCrew
      exact ⟨congrArg Prod.fst (poll_of_heard call), congrArg Prod.fst answered⟩ }

/-- The body waits for a slot behind another one, which then gives it up; it runs and panics. In the
meantime somebody sets a new timeout and runs another batch, and the pool is released. -/
def bustle : List (Event Unit) :=
  [.setTimeout (.ofMillis 5), .openScope .root, .push ⟨2⟩ "other" (), .begin (.exec ⟨2⟩),
    .finish ⟨0⟩ (.returned .unit), .poll ⟨1⟩, .start ⟨1⟩, .release, .tick (.ofMillis 10), .poll ⟨2⟩,
    .finish ⟨1⟩ (.panicked (.message "oh"))]

theorem resets_bustle (yard : Yard Unit) : yard.Resets bustle := by
  intro earlier under rest split
  unfold bustle at split
  cases earlier with
  | nil => cases split
  | cons first others =>
    rw [← (List.cons.inj split).1]
    exact .inr ⟨_, List.mem_cons_self⟩

theorem reportable_bustle : Reportable bustle := fun _ _ member => by simp [bustle] at member

theorem runsAsAlone_bustle : ∃ yard : Yard Unit, Reached (.ofCapacity 1) yard ∧
    yard.slots.closed = false ∧ yard.pending ⟨1⟩ = 0 ∧ yard.Spares ⟨1⟩ () bustle ∧
    (((yard.runAlone ⟨1⟩ ()).after bustle).poll ⟨1⟩).1 =
      some (.completed (.error (.panicked "oh"))) ∧
    yard.RunsAsAlone ⟨1⟩ "task" () bustle := by
  have run : ∃ yard : Yard Unit, Reached (.ofCapacity 1) yard ∧ yard.slots.closed = false ∧
      yard.pending ⟨1⟩ = 0 ∧ yard.Spares ⟨1⟩ () bustle ∧
      (((yard.runAlone ⟨1⟩ ()).after bustle).poll ⟨1⟩).1 =
        some (.completed (.error (.panicked "oh"))) := by
    refine ⟨_, ⟨_, [.openScope .root, .setTimeout (.ofMillis 100), .begin (.submit ()),
      .start ⟨0⟩], rfl, rfl⟩, rfl, rfl, ⟨rfl, ?_, by decide, ?_, ?_⟩, rfl⟩
    · simp only [← List.mem_inits]
      decide
    · simp only [← List.mem_inits]
      decide
    · exact fun job payload ends => ends.not_reportable reportable_bustle
  obtain ⟨yard, reached, unclosed, fresh, spares, answered⟩ := run
  exact ⟨yard, reached, unclosed, fresh, spares, answered,
    runsAsAlone reached unclosed fresh spares (resets_bustle yard)⟩

/-- Another batch is run while the body runs. -/
def crossing : List (Event Unit) :=
  [.start ⟨0⟩, .push ⟨2⟩ "other" (), .begin (.exec ⟨2⟩), .tick (.ofMillis 10), .poll ⟨1⟩]

/-- The other batch gets the timeout that was set if the body is run alone, and waits on for its
slot. If the body is run as a batch the other one has the default timeout, which is over. -/
theorem exists_unlike_alone : ∃ yard : Yard Unit,
    Reached ⟨1, false, 0, .ofMillis 5, false⟩ yard ∧ yard.slots.closed = false ∧
    yard.pending ⟨1⟩ = 0 ∧ yard.Spares ⟨1⟩ () crossing ∧
    ((yard.runAlone ⟨1⟩ ()).after crossing).isQuiet = true ∧
    ((yard.runAsBatch ⟨1⟩ "task" ()).after crossing).isQuiet = true ∧
    ((yard.runAlone ⟨1⟩ ()).after crossing).slots.waiting = 1 ∧
    ((yard.runAsBatch ⟨1⟩ "task" ()).after crossing).slots.waiting = 0 := by
  refine ⟨_, ⟨_, [.openScope .root, .openScope .root, .setTimeout (.ofMillis 100)], rfl, rfl⟩,
    rfl, rfl, ?_, rfl, rfl, rfl, rfl⟩
  refine ⟨rfl, ?_, by decide, ?_, ?_⟩
  · simp only [← List.mem_inits]
    decide
  · simp only [← List.mem_inits]
    decide
  · exact fun job payload ends => ends.not_reportable fun _ _ member => by simp [crossing] at member

end Yard

end Taskyard

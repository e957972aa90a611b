/-
This file keeps books of what a batch gets to know of its tasks: the outputs
that its bodies hand over when they are over, and the refusals of slots that it
asked for. All of that is either in the outcome of the batch or has come in and
was not looked at yet, each once, and nothing else is. A batch that is complete
is therefore answered with exactly that. A batch that is not complete is answered
only when its timeout is over or its scope has ended.
-/

import Taskyard.Proofs.Finality
import Taskyard.Proofs.Truthfulness

namespace Taskyard

variable {Body : Type}

/-- The task that was refused a slot and why, if that is what a note says. -/
def Note.refusal? : Note → Option (TaskId × PoolError)
  | .notSubmitted _ task error => some (task, error)
  | _ => none

/-- What a task came to that was refused a slot. -/
def refusalOutput (refusal : TaskId × PoolError) : TaskId × Output :=
  (refusal.1, .error (.submit refusal.2))

/-- The task of a batch that a body is there for, if the batch is that of a call. -/
def Purpose.taskFor? (id : CallId) : Purpose → Option TaskId
  | .member call task _ => if call = id then some task else none
  | .errand | .solo _ => none

theorem Slots.capacity_turn (slots : Slots) (call : CallId) (queued : Bool) :
    (slots.turn call queued).2.capacity = slots.capacity := by
  cases queued with
  | false =>
    rcases slots.ask_cases call with ⟨error, told⟩ | ⟨-, -, told⟩ | ⟨-, -, told⟩ <;>
      simp [turn, told]
  | true =>
    rcases slots.askAgain_cases call with ⟨-, told⟩ | ⟨-, -, told⟩ | ⟨-, -, told⟩ <;>
      simp [turn, told, (slots.withdraw_frame call).1]

/-- Why a slot may be refused. -/
theorem Slots.error_of_refused {slots : Slots} {call : CallId} {queued : Bool} {error : PoolError}
    (refused : (slots.turn call queued).1 = .refused error) :
    error = .closed ∨ error = .saturated slots.capacity := by
  cases queued with
  | false =>
    simp only [turn, ask, Bool.false_eq_true, if_false] at refused
    repeat' split at refused
    all_goals simp_all
  | true =>
    rcases slots.askAgain_cases call with ⟨-, told⟩ | ⟨-, -, told⟩ | ⟨-, -, told⟩ <;>
      simp_all [turn]

namespace Yard

variable {yard : Yard Body} {id : CallId} {batch : Batch Body}

/-! ### What an event tells a batch -/

/-- The refusals in the journal. -/
def noted (yard : Yard Body) : List (TaskId × PoolError) := yard.journal.filterMap Note.refusal?

/-- Whether an event deals with a call. -/
def dealsWith (id : CallId) (yard : Yard Body) : Event Body → Bool
  | .poll call => call = id
  | .begin _ => id = ⟨yard.callCount⟩
  | _ => false

/-- The refusals that are noted while a call is dealt with. -/
def refusing (id : CallId) (yard : Yard Body) (event : Event Body) : List (TaskId × PoolError) :=
  if yard.dealsWith id event then (yard.step event).noted.drop yard.noted.length else []

/-- The output that a call is handed by a body that is over. -/
def handing (id : CallId) (yard : Yard Body) : Event Body → Option (TaskId × Output)
  | .finish job ending => (yard.job? job).bind fun held =>
    if held.started then (held.purpose.taskFor? id).map fun task => (task, ending.output) else none
  | .abandon job => (yard.job? job).bind fun held =>
    (yard.overtaken? held).bind fun reason =>
      (held.purpose.taskFor? id).map fun task => (task, .error (.scope reason))
  | _ => none

/-- What a batch gets to know of its tasks by an event. -/
def learning (id : CallId) (yard : Yard Body) (event : Event Body) : List (TaskId × Output) :=
  (yard.handing id event).toList ++ (yard.refusing id event).map refusalOutput

theorem noted_note {said : Note} (other : said.refusal? = none) (yard : Yard Body) :
    (yard.note said).noted = yard.noted := by
  simp [noted, note, other]

/-- A batch is handed what one of its bodies came to, and nothing of any other body. -/
theorem get?_amend_receive (found : yard.calls.get? id = some (.batch batch)) (call : CallId)
    (task : TaskId) (scope : ScopeId) (output : Output) :
    (yard.amend call (Call.receive task output)).calls.get? id = some (.batch { batch with
      inbox := batch.inbox ++ (((Purpose.member call task scope).taskFor? id).map fun task =>
        (task, output)).toList }) := by
  simp only [amend, Listing.get?_amend, found, Purpose.taskFor?]
  by_cases own : call = id
  · rw [if_pos own.symm, if_pos own]
    rfl
  · rw [if_neg fun same => own same.symm, if_neg own]
    simp

theorem get?_deliver (found : yard.calls.get? id = some (.batch batch)) (purpose : Purpose)
    (ending : Ending) : (yard.deliver purpose ending).calls.get? id = some (.batch { batch with
      inbox := batch.inbox ++
        ((purpose.taskFor? id).map fun task => (task, ending.output)).toList }) := by
  obtain ⟨journal, reported, same⟩ := yard.deliver_eq purpose ending
  rw [same]
  cases purpose with
  | errand =>
    simp only [Purpose.patron?, found, Purpose.taskFor?, Option.map_none, Option.toList_none,
      List.append_nil]
  | solo call =>
    simp only [Purpose.patron?, Listing.get?_amend, found, Purpose.taskFor?, Option.map_none,
      Option.toList_none, List.append_nil]
    split <;> rfl
  | member call task scope => exact get?_amend_receive found call task scope ending.output

/-- A batch hears of the end of a body what that body hands over. -/
theorem get?_of_ends {event : Event Body} {job : JobId} (ends : event.ends? = some job)
    (found : yard.calls.get? id = some (.batch batch)) : (yard.step event).calls.get? id =
      some (.batch { batch with inbox := batch.inbox ++ (yard.handing id event).toList }) := by
  have untold : some (Call.batch batch) = some (.batch { batch with
      inbox := batch.inbox ++ (none : Option (TaskId × Output)).toList }) := by
    simp
  cases event with
  | finish job ending =>
    rw [Yard.step, finishJob, handing]
    cases yard.job? job with
    | none => exact found.trans untold
    | some held =>
      cases started : held.started with
      | false => simpa [started] using found
      | true =>
        simp only [started, if_true, Option.bind_some]
        exact get?_deliver found held.purpose ending
  | abandon job =>
    rw [Yard.step, abandonJob, handing]
    cases yard.job? job with
    | none => exact found.trans untold
    | some held =>
      simp only [Option.bind_some, overtaken?]
      cases held.purpose with
      | errand | solo => exact found.trans untold
      | member call task scope =>
        simp only
        cases ended : yard.ended? scope with
        | none =>
          rw [query_of_none ended]
          exact found.trans untold
        | some reason =>
          rw [query_of_some ended]
          exact @get?_amend_receive Body { yard with scopes := _ } id batch found call task scope _
  | _ => cases ends

/-- Only what deals with a batch, or ends a body, tells it anything. -/
theorem learning_of_other {event : Event Body} (apart : yard.dealsWith id event = false)
    (goesOn : event.ends? = none) : yard.learning id event = [] := by
  have nothing : yard.handing id event = none := by
    cases event <;> first | rfl | cases goesOn
  simp [learning, nothing, refusing, apart]

/-! ### What a poll tells a batch -/

/-- Submitting the tasks of a batch enters those into the outcome that are refused a slot, and notes
the same in the journal. -/
theorem dispatch_learns (id : CallId) (batch : Batch Body) (queued : Bool)
    (entries : List (Entry Body)) (yard : Yard Body) (outcome : Outcome) :
    ∃ refused : List (TaskId × PoolError),
      (yard.dispatch id batch queued entries outcome).1.outcome =
          outcome.recordAll (refused.map refusalOutput) ∧
        (yard.dispatch id batch queued entries outcome).2.noted = yard.noted ++ refused ∧
        (refused.map Prod.fst).Sublist (entries.map Entry.task) ∧
        ∀ refusal ∈ refused,
          refusal.2 = .closed ∨ refusal.2 = .saturated yard.slots.capacity := by
  induction entries generalizing queued yard outcome with
  | nil =>
    exact ⟨[], rfl, (List.append_nil _).symm, .slnil, List.forall_mem_nil _⟩
  | cons entry rest inductionHypothesis =>
    have capacity := yard.slots.capacity_turn id queued
    unfold dispatch
    rcases told : yard.slots.turn id queued with ⟨turn, slots⟩
    rw [told] at capacity
    cases turn with
    | admitted =>
      obtain ⟨refused, outcome, noted, sublist, errors⟩ := inductionHypothesis false
        ({ yard with slots := slots }.enlist (.member id entry.task batch.scope) entry.body) outcome
      exact ⟨refused, outcome, noted, sublist.cons _,
        fun refusal member => capacity ▸ errors refusal member⟩
    | refused error =>
      have reason := Slots.error_of_refused (congrArg Prod.fst told)
      obtain ⟨refused, outcome, noted, sublist, errors⟩ := inductionHypothesis false
        ({ yard with slots := slots }.note (.notSubmitted batch.scope entry.task error))
        (outcome.record entry.task (.error (.submit error)))
      refine ⟨(entry.task, error) :: refused, outcome, noted.trans ?_, sublist.cons_cons _,
        List.forall_mem_cons.mpr ⟨reason, fun refusal member => capacity ▸ errors refusal member⟩⟩
      simp [Yard.noted, Yard.note, Note.refusal?]
    | queued =>
      exact ⟨[], rfl, (List.append_nil _).symm, List.nil_sublist _,
        List.forall_mem_nil _⟩

theorem noted_collect (scope : ScopeId) (outputs : List (TaskId × Output)) (yard : Yard Body)
    (outcome : Outcome) : (collect scope outputs yard outcome).2.noted = yard.noted := by
  induction outputs generalizing yard outcome with
  | nil => rfl
  | cons entry rest inductionHypothesis =>
    obtain ⟨task, output⟩ := entry
    cases output with
    | ok value => exact inductionHypothesis yard _
    | error error => exact (inductionHypothesis _ _).trans (noted_note rfl yard)

theorem noted_awaitBatch (yard : Yard Body) (id : CallId) (batch : Batch Body) :
    (yard.awaitBatch id batch).2.noted = yard.noted := by
  unfold awaitBatch
  split
  · exact (noted_note rfl _).trans (noted_note rfl yard)
  · cases ended : yard.ended? batch.scope with
    | some reason =>
      rw [query_of_some ended]
      exact (noted_note rfl _).trans (noted_note rfl _)
    | none =>
      rw [query_of_none ended]
      rfl

theorem noted_pollBatch (yard : Yard Body) (id : CallId) (batch : Batch Body) :
    (yard.pollBatch id batch).2.noted = (yard.submitted id batch).2.noted := by
  unfold pollBatch submitted
  rcases yard.dispatch id batch batch.queued batch.unsubmitted batch.outcome with ⟨held, after⟩
  simp only
  have collected := noted_collect held.scope held.inbox after held.outcome
  split
  · rcases result : collect held.scope held.inbox after held.outcome with ⟨outcome, rest⟩
    rw [result] at collected
    simp only at collected ⊢
    split
    · exact (noted_note rfl rest).trans collected
    · exact (noted_awaitBatch rest id _).trans collected
  · exact noted_awaitBatch after id held

/-! ### What other calls say -/

/-- What has been said in a yard: the notes in the journal, and the panics that were reported. -/
def said (yard : Yard Body) : List Note × List String := (yard.journal, yard.reported)

theorem noted_of_said {later : Yard Body} (same : later.said = yard.said) :
    later.noted = yard.noted :=
  congrArg (fun said => said.1.filterMap Note.refusal?) same

theorem said_pollSubmit (yard : Yard Body) (id : CallId) (body : Body) (queued : Bool) :
    (yard.pollSubmit id body queued).2.said = yard.said := by
  unfold pollSubmit
  split <;> rfl

theorem said_pollSolo (yard : Yard Body) (id : CallId) (scope : ScopeId)
    (reply : Option Output) : (yard.pollSolo id scope reply).2.said = yard.said := by
  unfold pollSolo
  cases reply with
  | some output => rfl
  | none =>
    cases ended : yard.ended? scope with
    | some reason =>
      rw [query_of_some ended]
      rfl
    | none =>
      rw [query_of_none ended]
      rfl

theorem said_pollSoloQueued (yard : Yard Body) (id : CallId) (scope : ScopeId) (body : Body)
    (queued : Bool) : (yard.pollSoloQueued id scope body queued).2.said = yard.said := by
  unfold pollSoloQueued
  split
  · exact said_pollSolo _ id scope none
  · rfl
  · next slots _ =>
    cases ended : { yard with slots := slots }.ended? scope with
    | some reason =>
      simp only [query_of_some ended]
      rfl
    | none =>
      simp only [query_of_none ended]
      rfl

theorem said_pollDrain (yard : Yard Body) (id : CallId) (timeout : Duration)
    (deadline : Option Duration) :
    (yard.pollDrain id timeout deadline).2.said = yard.said := by
  unfold pollDrain
  split
  · rfl
  · split <;> rfl

theorem said_pollWatch (yard : Yard Body) (id : CallId) (scope : ScopeId) :
    (yard.pollWatch id scope).2.said = yard.said := by
  unfold pollWatch
  cases ended : yard.ended? scope with
  | some reason =>
    rw [query_of_some ended]
    rfl
  | none =>
    rw [query_of_none ended]
    rfl

/-! ### Why slots are refused -/

/-- Whether all refusals that a yard has noted since another have one of the two reasons there
are. -/
def Refuses (yard later : Yard Body) : Prop :=
  ∃ refused, later.noted = yard.noted ++ refused ∧
    ∀ refusal ∈ refused, refusal.2 = .closed ∨ refusal.2 = .saturated yard.slots.capacity

theorem Refuses.of_same {later : Yard Body} (same : later.noted = yard.noted) :
    yard.Refuses later :=
  ⟨[], by rw [same, List.append_nil], List.forall_mem_nil _⟩

theorem Refuses.of_said {later : Yard Body} (same : later.said = yard.said) : yard.Refuses later :=
  .of_same (noted_of_said same)

theorem refuses_pollBatch (yard : Yard Body) (id : CallId) (batch : Batch Body) :
    yard.Refuses (yard.pollBatch id batch).2 := by
  obtain ⟨refused, -, noted, -, errors⟩ :=
    dispatch_learns id batch batch.queued batch.unsubmitted yard batch.outcome
  exact ⟨refused, (noted_pollBatch yard id batch).trans noted, errors⟩

theorem refuses_poll (yard : Yard Body) (id : CallId) : yard.Refuses (yard.poll id).2 := by
  unfold poll
  split
  · exact .of_same rfl
  · exact .of_said (said_pollSubmit yard id _ true)
  · exact .of_said (said_pollSoloQueued yard id _ _ true)
  · exact .of_said (said_pollSolo yard id _ _)
  · exact refuses_pollBatch yard id _
  · exact .of_said (said_pollDrain yard id _ _)
  · exact .of_said (said_pollWatch yard id _)

theorem refuses_beginBatch (yard : Yard Body) (id : CallId) (scope : ScopeId) (timeout : Duration)
    (entries : List (Entry Body)) :
    yard.Refuses (yard.beginBatch id scope timeout entries).2 := by
  unfold beginBatch
  cases ended : yard.ended? scope with
  | some reason =>
    rw [query_of_some ended]
    exact .of_same (noted_note rfl _)
  | none =>
    rw [query_of_none ended]
    obtain ⟨refused, noted, errors⟩ := refuses_pollBatch
      (yard.note (.dispatched scope (entries.map Entry.task).length timeout)) id
      (taken scope timeout yard.now entries)
    rw [noted_note rfl] at noted
    exact ⟨refused, noted, errors⟩

theorem refuses_begin (yard : Yard Body) (request : Request Body) :
    yard.Refuses (yard.begin request).2.2 := by
  cases request with
  | submit body => exact .of_said (said_pollSubmit _ _ body false)
  | submitTask scope body =>
    rw [begin_submitTask]
    cases ended : (yard.prepared (.submitTask scope body)).ended? scope with
    | some reason =>
      rw [query_of_some ended]
      exact .of_same rfl
    | none =>
      rw [query_of_none ended]
      exact .of_said (said_pollSoloQueued _ _ scope body false)
  | exec scope =>
    cases batch : yard.backlog.batches.get? scope with
    | none =>
      rw [begin_exec_of_absent batch]
      exact .of_same (noted_note rfl _)
    | some entries =>
      rw [begin_exec batch]
      exact refuses_beginBatch _ _ scope yard.timeout entries
  | drain timeout =>
    exact .of_same ((noted_of_said (said_pollDrain _ _ timeout _)).trans (noted_note rfl _))
  | watch scope => exact .of_said (said_pollWatch _ _ scope)

theorem error_of_refusing {event : Event Body} {refusal : TaskId × PoolError}
    (member : refusal ∈ yard.refusing id event) :
    refusal.2 = .closed ∨ refusal.2 = .saturated yard.slots.capacity := by
  have refuses : yard.dealsWith id event = true → yard.Refuses (yard.step event) := by
    intro deals
    cases event with
    | poll call => exact refuses_poll yard call
    | begin request => exact refuses_begin yard request
    | _ => cases deals
  unfold refusing at member
  split at member
  · next deals =>
    obtain ⟨refused, noted, errors⟩ := refuses deals
    rw [noted, List.drop_left] at member
    exact errors refusal member
  · cases member

end Yard

/-! ### What a batch knows -/

theorem Outcome.recordAll_append (outcome : Outcome) (first second : List (TaskId × Output)) :
    outcome.recordAll (first ++ second) = (outcome.recordAll first).recordAll second :=
  List.foldl_append

/-- Whether this is what a batch got to know: all of it is in the outcome, or has come in and was
not looked at yet, and no task is named twice. -/
structure Batch.Knows (batch : Batch Body) (news : List (TaskId × Output)) : Prop where
  distinct : (news.map Prod.fst).Nodup
  sources : ∃ outputs, batch.outcome = .recordAll .empty outputs ∧
    (outputs ++ batch.inbox).Perm news

namespace Batch

variable {batch : Batch Body} {news : List (TaskId × Output)} {id : CallId} {staff : List Purpose}

theorem knows_taken (scope : ScopeId) (timeout begun : Duration) (entries : List (Entry Body)) :
    (Yard.taken scope timeout begun entries).Knows [] :=
  ⟨List.nodup_nil, [], rfl, List.Perm.refl _⟩

theorem tasks_of_outputs {outputs : List (TaskId × Output)}
    (distinct : (outputs.map Prod.fst).Nodup) :
    (Outcome.recordAll .empty outputs).tasks = outputs.map Prod.fst := by
  have empty : (Outcome.empty.tasks ++ outputs.map Prod.fst).Nodup := distinct
  exact Outcome.tasks_recordAll empty

/-- What a batch knows are the tasks that its books have an output of. -/
theorem Knows.tasks (knows : batch.Knows news) :
    (batch.outcome.tasks ++ batch.inbox.map Prod.fst).Perm (news.map Prod.fst) := by
  obtain ⟨distinct, outputs, outcome, perm⟩ := knows
  have named := perm.map Prod.fst
  have apart := named.nodup_iff.mpr distinct
  rw [List.map_append] at named apart
  rwa [outcome, tasks_of_outputs (List.nodup_append.mp apart).1]

/-- Every task of a batch is known of, has a job that works on it, or was not submitted yet. -/
theorem Knows.accounted (knows : batch.Knows news) (fits : batch.Fits id staff) :
    ∃ members : List TaskId, staff = members.map (fun task => .member id task batch.scope) ∧
      (news.map Prod.fst ++ members ++ batch.unsubmitted.map Entry.task).Perm batch.tasks := by
  obtain ⟨members, same, accounted⟩ := fits.accounted
  exact ⟨members, same, ((knows.tasks.symm.append_right _).append_right _).trans accounted⟩

theorem Knows.hear {more : List (TaskId × Output)} (knows : batch.Knows news)
    (fits : { batch with inbox := batch.inbox ++ more }.Fits id staff) :
    { batch with inbox := batch.inbox ++ more }.Knows (news ++ more) where
  distinct := by
    have incoming := fits.incoming
    rw [List.map_append, ← List.append_assoc] at incoming
    rw [List.map_append]
    exact (knows.tasks.append_right _).nodup_iff.mp incoming
  sources := by
    obtain ⟨-, outputs, outcome, perm⟩ := knows
    refine ⟨outputs, outcome, ?_⟩
    rw [← List.append_assoc]
    exact perm.append_right more

/-- Tasks that were not submitted yet are refused a slot. -/
theorem Knows.refuse {refused : List (TaskId × PoolError)} (knows : batch.Knows news)
    (fits : batch.Fits id staff)
    (sublist : (refused.map Prod.fst).Sublist (batch.unsubmitted.map Entry.task)) :
    ((news ++ refused.map refusalOutput).map Prod.fst).Nodup := by
  obtain ⟨members, -, accounted⟩ := fits.accounted
  have apart := accounted.nodup_iff.mpr fits.distinct
  have fewer : (batch.outcome.tasks ++ batch.inbox.map Prod.fst ++ refused.map Prod.fst).Sublist
      (batch.outcome.tasks ++ batch.inbox.map Prod.fst ++ members ++
        batch.unsubmitted.map Entry.task) :=
    (List.sublist_append_left _ _).append sublist
  have same : (refused.map refusalOutput).map Prod.fst = refused.map Prod.fst := by
    rw [List.map_map]
    rfl
  rw [List.map_append, same]
  exact (knows.tasks.append_right _).nodup_iff.mp (apart.sublist fewer)

theorem Knows.look (knows : batch.Knows news) : batch.looked.Knows news := by
  unfold looked
  split
  · obtain ⟨distinct, outputs, outcome, perm⟩ := knows
    refine ⟨distinct, outputs ++ batch.inbox, ?_, ?_⟩
    · rw [outcome, Outcome.recordAll_append]
    · rwa [List.append_nil]
  · exact knows

end Batch

namespace Yard

variable {yard : Yard Body} {id : CallId} {batch : Batch Body} {news : List (TaskId × Output)}

/-- How a batch is left by a poll after which this is what it knows, or would know: complete, failed
as a whole, or waiting. -/
inductive Informs (yard : Yard Body) (id : CallId) (batch : Batch Body)
    (news : List (TaskId × Output)) : Option Reply × Yard Body → Prop
  /-- Every task is known of. -/
  | complete {outputs : List (TaskId × Output)} {later : Yard Body}
      (distinct : (news.map Prod.fst).Nodup) (perm : outputs.Perm news)
      (full : (outputs.map Prod.fst).Perm batch.tasks) :
      Informs yard id batch news
        (some (.executed (some (.recordAll .empty outputs))), later)
  /-- Some task is not. -/
  | fails {outcome : Outcome} {later : Yard Body} (whole : yard.FailsWhole batch outcome)
      (short : news.length < batch.tasks.length) :
      Informs yard id batch news (some (.executed (some outcome)), later)
  | waits {held : Batch Body} {later : Yard Body}
      (found : later.calls.get? id = some (.batch held)) (knows : held.Knows news) :
      Informs yard id batch news (none, later)

theorem Informs.of_same {other : Yard Body} {result : Option Reply × Yard Body}
    (informs : yard.Informs id batch news result) (now : other.now = yard.now)
    (scopes : other.scopes = yard.scopes) : other.Informs id batch news result := by
  cases informs with
  | complete distinct perm full => exact .complete distinct perm full
  | fails whole short =>
    refine .fails ?_ short
    cases whole with
    | timeout past same => exact .timeout (now ▸ past) same
    | @ended reason ended same =>
      exact .ended (by rw [Yard.ended?, now, scopes]; exact ended) same
  | waits found knows => exact .waits found knows

/-- The refusals that are noted when a batch is polled. -/
theorem drop_noted_pollBatch (yard : Yard Body) (id : CallId) (batch : Batch Body) :
    ∃ refused, (yard.pollBatch id batch).2.noted.drop yard.noted.length = refused ∧
      (yard.submitted id batch).1.outcome =
        batch.outcome.recordAll (refused.map refusalOutput) ∧
      (refused.map Prod.fst).Sublist (batch.unsubmitted.map Entry.task) := by
  obtain ⟨refused, outcome, noted, sublist, -⟩ :=
    dispatch_learns id batch batch.queued batch.unsubmitted yard batch.outcome
  refine ⟨refused, ?_, outcome, sublist⟩
  rw [noted_pollBatch, submitted, noted, List.drop_left]

theorem informs_pollBatch {before : Yard Body} (knows : batch.Knows news)
    (dealt : before.Dealt id batch yard) : yard.Informs id batch
      (news ++ ((yard.pollBatch id batch).2.noted.drop yard.noted.length).map refusalOutput)
      (yard.pollBatch id batch) := by
  obtain ⟨refused, same, outcome, sublist⟩ := yard.drop_noted_pollBatch id batch
  obtain ⟨settled, -⟩ : Dispatched id before (yard.submitted id batch) := Dealt.dispatch dealt
  have tasks : (yard.submitted id batch).1.tasks = batch.tasks := by
    obtain ⟨_, _, _, sent⟩ :=
      dispatch_batch id batch batch.queued batch.unsubmitted yard batch.outcome
    rw [submitted, sent]
  have fits := dealt.fits
  rw [same]
  have knowing : (yard.submitted id batch).1.Knows (news ++ refused.map refusalOutput) := by
    refine ⟨knows.refuse fits sublist, ?_⟩
    obtain ⟨-, outputs, known, perm⟩ := knows
    refine ⟨outputs ++ refused.map refusalOutput, ?_, ?_⟩
    · rw [outcome, known, Outcome.recordAll_append]
    · rw [inbox_submitted, List.append_assoc]
      refine (List.perm_append_comm.append_left outputs).trans ?_
      rw [← List.append_assoc]
      exact perm.append_right _
  obtain ⟨members, staff, accounted⟩ := knowing.accounted settled.fits
  rw [tasks] at accounted
  rcases answer : yard.pollBatch id batch with ⟨reply, later⟩
  rcases pollBatch_cases yard id batch with ⟨⟨sent, unmanned⟩, ends⟩ | ⟨goes, journal, goesOn⟩
  · rw [answer] at ends
    obtain ⟨distinct, outputs, known, perm⟩ := knowing
    rw [isUnmanned_iff.mp unmanned, eq_comm, List.map_eq_nil_iff] at staff
    rw [staff, sent, List.map_nil, List.append_nil, List.append_nil] at accounted
    rw [known, ← Outcome.recordAll_append] at ends
    subst ends
    exact .complete distinct perm ((perm.map Prod.fst).trans accounted)
  · have short : (news ++ refused.map refusalOutput).length < batch.tasks.length := by
      have counted := accounted.length_eq
      simp only [List.length_append, List.length_map] at counted ⊢
      rw [isUnmanned_iff, staff, List.map_eq_nil_iff] at goes
      have some : 0 < members.length ∨ 0 < (yard.submitted id batch).1.unsubmitted.length := by
        simp only [List.length_pos_iff]
        tauto
      omega
    rcases awaitBatch_cases { (yard.submitted id batch).2 with journal := journal } id
      (yard.submitted id batch).1.looked with ⟨error, failed⟩ | ⟨-, waits⟩
    · have whole := failsWhole_of_looked failed
      rw [← goesOn, answer] at failed
      subst failed
      exact .fails whole short
    · rw [answer, waits] at goesOn
      cases goesOn
      refine .waits ?_ knowing.look
      simp [Yard.keep, Listing.get?_put]

/-! ### From the beginning to the answer -/

theorem learning_poll (yard : Yard Body) (id : CallId) : yard.learning id (.poll id) =
    ((yard.poll id).2.noted.drop yard.noted.length).map refusalOutput := by
  simp [learning, handing, refusing, dealsWith, Yard.step]

theorem Kept.informs_poll (kept : yard.Kept) (found : yard.calls.get? id = some (.batch batch))
    (knows : batch.Knows news) :
    yard.Informs id batch (news ++ yard.learning id (.poll id)) (yard.poll id) := by
  obtain ⟨dealing, waits, fits, -⟩ := kept.inOrder.underWay found
  rw [learning_poll, poll_of_batch found]
  exact informs_pollBatch knows ⟨dealing, waits, fits⟩

/-- A batch that is under way after an event knows what it knew and what the event tells it. -/
theorem Kept.knows_step (kept : yard.Kept) {event : Event Body} {held : Batch Body}
    (found : yard.calls.get? id = some (.batch batch)) (knows : batch.Knows news)
    (still : (yard.step event).calls.get? id = some (.batch held)) :
    held.Knows (news ++ yard.learning id event) := by
  have untouched : yard.dealsWith id event = false → event.ends? = none →
      (yard.step event).calls.get? id = yard.calls.get? id →
      held.Knows (news ++ yard.learning id event) := by
    intro apart goesOn same
    rw [learning_of_other apart goesOn, List.append_nil]
    rw [same, found] at still
    cases still
    exact knows
  have known := kept.inOrder.numbered found
  cases event with
  | poll other =>
    by_cases own : other = id
    · subst own
      have informed := kept.informs_poll found knows
      have unanswered := ((kept.inOrder.poll found).waits still).1
      rw [Yard.step] at still
      rcases answer : yard.poll other with ⟨reply, later⟩
      rw [answer] at informed unanswered still
      subst unanswered
      cases informed with
      | waits there knowing =>
        rw [there] at still
        cases still
        exact knowing
    · have apart : id ≠ other := fun same => own same.symm
      refine untouched (by simp [dealsWith, own]) rfl ?_
      cases underWay : yard.calls.get? other with
      | none => rw [Yard.step, poll_of_absent underWay]
      | some call => exact (kept.inOrder.poll underWay).others id apart
  | begin request =>
    have apart : id ≠ ⟨yard.callCount⟩ := fun same => by simp [same] at known
    refine untouched (by simp [dealsWith, apart]) rfl ?_
    rw [Yard.step, (kept.places_begin request).others apart, calls_prepared]
  | finish job ending =>
    have fits := ((kept.step _).inOrder.fits id _ (by simp) still).1
    rw [get?_of_ends rfl found] at still
    cases still
    simpa [learning, refusing, dealsWith] using knows.hear fits
  | abandon job =>
    have fits := ((kept.step _).inOrder.fits id _ (by simp) still).1
    rw [get?_of_ends rfl found] at still
    cases still
    simpa [learning, refusing, dealsWith] using knows.hear fits
  | drop other =>
    by_cases own : id = other
    · simp [Yard.step, Yard.drop, Listing.get?_remove, own] at still
    · exact untouched rfl rfl (by simp [Yard.step, Yard.drop, Listing.get?_remove, own])
  | tick moment =>
    obtain ⟨now, -, moved⟩ := advanceTo_eq yard moment
    exact untouched rfl rfl (by rw [Yard.step, moved])
  | push scope label body =>
    obtain ⟨scopes, backlog, taskCount, journal, -, pushed⟩ := push_eq yard scope label body
    exact untouched rfl rfl (by rw [Yard.step, pushed])
  | openScope | cancel | query | discard | setTimeout | release | start =>
    exact untouched rfl rfl rfl

theorem Kept.knows_after (kept : yard.Kept) {history : List (Event Body)} {held : Batch Body}
    (found : yard.calls.get? id = some (.batch batch)) (knows : batch.Knows news)
    (still : (yard.after history).calls.get? id = some (.batch held)) :
    held.Knows (news ++ yard.chronicle (learning id) history) := by
  induction history using List.reverseRecOn generalizing held with
  | nil =>
    rw [after_nil, found] at still
    cases still
    simpa [chronicle] using knows
  | append_singleton earlier event inductionHypothesis =>
    rw [after_concat] at still
    have known := Nat.lt_of_lt_of_le (kept.inOrder.numbered found)
      (kept.callCount_le_after earlier)
    obtain ⟨former, underWay, concern⟩ := (kept.after earlier).concern_step known still
    cases former with
    | batch between =>
      rw [chronicle_concat, ← List.append_assoc]
      exact (kept.after earlier).knows_step underWay (inductionHypothesis underWay) still
    | _ => cases concern

/-- How a batch is left by the operation that begins it. -/
theorem Kept.informs_begin (kept : yard.Kept) {scope : ScopeId} {entries : List (Entry Body)}
    (batch : yard.backlog.batches.get? scope = some entries) (some : entries ≠ []) :
    yard.Informs ⟨yard.callCount⟩ (taken scope yard.timeout yard.now entries)
      (yard.learning ⟨yard.callCount⟩ (.begin (.exec scope))) (yard.begin (.exec scope)).2 := by
  have learned : yard.learning ⟨yard.callCount⟩ (.begin (.exec scope)) =
      ((yard.begin (.exec scope)).2.2.noted.drop yard.noted.length).map refusalOutput := by
    simp [learning, handing, refusing, dealsWith, Yard.step]
  have same : (yard.prepared (.exec scope)).ended? scope = yard.ended? scope := rfl
  rw [learned, begin_exec batch, beginBatch]
  cases ended : yard.ended? scope with
  | some reason =>
    rw [query_of_some (same.trans ended)]
    have silent : ({ yard.prepared (.exec scope) with
        scopes := (yard.prepared (.exec scope)).scopes.settle scope reason }.note
          (.endedBefore scope reason (entries.map Entry.task).length)).noted = yard.noted :=
      noted_note rfl _
    refine .fails (.ended ended rfl) ?_
    rw [silent, List.drop_length]
    simpa [taken] using List.length_pos_iff.mpr some
  | none =>
    rw [query_of_none (same.trans ended)]
    have dispatched : ((yard.prepared (.exec scope)).note (.dispatched scope
        (entries.map Entry.task).length yard.timeout)).noted = yard.noted := noted_note rfl _
    obtain ⟨outside, unstaffed, -⟩ := kept.inOrder.fresh
    have dealing := (Dealing.start (kept.inOrder.prepare (.exec scope))).noted
      (.dispatched scope (entries.map Entry.task).length yard.timeout)
    have informed := informs_pollBatch (Batch.knows_taken scope yard.timeout yard.now entries)
      (dealing.taken outside unstaffed (kept.stocked.distinct_of_get? batch) scope yard.timeout
        yard.now)
    rw [dispatched, List.nil_append] at informed
    exact informed.of_same rfl rfl

/-- A call that runs a batch and is under way knows what it was told since it began. -/
theorem Kept.knows_begun (kept : yard.Kept) {scope : ScopeId} {history : List (Event Body)}
    (stocked : ∀ entries, yard.backlog.batches.get? scope = some entries → entries ≠ [])
    {call : Call Body} (underWay : ((yard.begin (.exec scope)).2.2.after history).calls.get?
      ⟨yard.callCount⟩ = some call) :
    ∃ entries held, yard.backlog.batches.get? scope = some entries ∧ call = .batch held ∧
      (Call.batch held).concern =
        (Call.batch (taken scope yard.timeout yard.now entries)).concern ∧
      held.Knows
        (yard.chronicle (learning ⟨yard.callCount⟩) (.begin (.exec scope) :: history)) := by
  have keptThen := kept.begin (.exec scope)
  have known := kept.known_begin (.exec scope)
  have requested := kept.begun_after underWay
  obtain ⟨entries, batch, concern⟩ := Option.map_eq_some_iff.mp requested
  obtain ⟨former, first, same⟩ := keptThen.concern_after known underWay
  have unanswered := ((kept.inOrder.begin kept.stocked requested).waits first).1
  have begun := kept.informs_begin batch (stocked entries batch)
  rcases result : (yard.begin (.exec scope)).2 with ⟨reply, later⟩
  rw [result] at begun first unanswered
  subst unanswered
  cases begun with
  | waits found knows =>
    rw [found] at first
    cases first
    cases call with
    | batch held =>
      refine ⟨entries, held, batch, rfl, concern.symm, ?_⟩
      rw [result] at keptThen underWay
      have later := keptThen.knows_after found knows underWay
      rw [chronicle, Yard.step, result]
      exact later
    | _ => cases concern

/-- How the batch of a scope comes to its outcome: with all that it got to know, if that is
something of every task, and otherwise as a whole, by the last event. -/
inductive Concludes (yard : Yard Body) (scope : ScopeId) (entries : List (Entry Body))
    (history : List (Event Body)) (outcome : Outcome) : Prop
  | complete {outputs : List (TaskId × Output)} (same : outcome = .recordAll .empty outputs)
      (distinct : (outputs.map Prod.fst).Nodup)
      (told : outputs.Perm (yard.chronicle (learning ⟨yard.callCount⟩) history))
      (full : (outputs.map Prod.fst).Perm (entries.map Entry.task))
  | fails {earlier : List (Event Body)} {last : Event Body} (split : history = earlier ++ [last])
      (whole : (yard.after earlier).FailsWhole (taken scope yard.timeout yard.now entries) outcome)
      (short : (yard.chronicle (learning ⟨yard.callCount⟩) history).length < entries.length)

/-- Every answer to the request for a batch comes about in one of these ways. -/
theorem Kept.concludes (kept : yard.Kept) {scope : ScopeId} {history : List (Event Body)}
    (stocked : ∀ entries, yard.backlog.batches.get? scope = some entries → entries ≠ [])
    {outcome : Outcome}
    (answered : yard.Answered (.exec scope) (.executed (some outcome)) history) :
    ∃ entries, yard.backlog.batches.get? scope = some entries ∧
      yard.Concludes scope entries history outcome := by
  cases answered with
  | atOnce replied =>
    cases batch : yard.backlog.batches.get? scope with
    | none =>
      rw [begin_exec_of_absent batch] at replied
      cases replied
    | some entries =>
      have begun := kept.informs_begin batch (stocked entries batch)
      rcases result : (yard.begin (.exec scope)).2 with ⟨reply, later⟩
      rw [result] at begun replied
      subst replied
      refine ⟨entries, rfl, ?_⟩
      have only : yard.chronicle (learning ⟨yard.callCount⟩) [.begin (.exec scope)] =
          yard.learning ⟨yard.callCount⟩ (.begin (.exec scope)) := List.append_nil _
      rw [← only] at begun
      cases begun with
      | complete distinct perm full =>
        exact .complete rfl ((perm.map Prod.fst).nodup_iff.mpr distinct) perm full
      | fails whole short =>
        exact .fails (List.nil_append _).symm whole (by simpa [taken] using short)
  | @inPoll between replied =>
    cases underWay : ((yard.begin (.exec scope)).2.2.after between).calls.get?
        (yard.begin (.exec scope)).1 with
    | none => simp [poll_of_absent underWay] at replied
    | some call =>
      have keptThen := kept.begin (.exec scope)
      obtain ⟨entries, held, batch, rfl, concern, knows⟩ := kept.knows_begun stocked underWay
      have informed := (keptThen.after between).informs_poll underWay knows
      have whole : yard.chronicle (learning ⟨yard.callCount⟩)
          (.begin (.exec scope) :: between ++ [.poll (yard.begin (.exec scope)).1]) = _ :=
        chronicle_concat yard (.begin (.exec scope) :: between) _
      have tasks : held.tasks = entries.map Entry.task := (Concern.batch.inj concern).2.2.2
      rcases result : ((yard.begin (.exec scope)).2.2.after between).poll
        (yard.begin (.exec scope)).1 with ⟨reply, later⟩
      rw [show (⟨yard.callCount⟩ : CallId) = (yard.begin (.exec scope)).1 from rfl, result]
        at informed
      rw [result] at replied
      subst replied
      refine ⟨entries, batch, ?_⟩
      cases informed with
      | complete distinct perm full =>
        exact .complete rfl ((perm.map Prod.fst).nodup_iff.mpr distinct)
          (perm.trans (.of_eq whole.symm)) (full.trans (.of_eq tasks))
      | fails failed short =>
        refine .fails rfl (failed.of_concern concern) ?_
        rw [whole, ← List.length_map Entry.task, ← tasks]
        exact short

end Yard

end Taskyard

/-
This file shows that the tasks of a batch do not get into each other's way. If the
batch comes to its answer though neither its timeout is over nor its scope has
ended, the outcome has of every task what its own body came to, which ran once,
under the scope and as it was pushed; or it says that the task was refused a slot,
and why. What one of the bodies comes to makes no difference to what the outcome
has of the others: had it ended otherwise, the batch would have been answered in
the same poll, with the same entries for all other tasks.
-/

import Taskyard.Proofs.AtMostOnce
import Taskyard.Proofs.Deliveries
import Taskyard.Proofs.Likeness
import Taskyard.Proofs.Queues

namespace Taskyard

variable {Body : Type}

namespace Outcome

/-- What an outcome has of a task that came to this: its value and no error, or no value and its
error. -/
structure Shows (outcome : Outcome) (task : TaskId) (output : Output) : Prop where
  error : outcome.errors.get? task = some (entryOf output)
  value : outcome.results.get? task = output.toOption

/-- Outputs that are of different tasks are all found in the outcome, and nothing else is. -/
theorem get?_recordAll {outputs : List (TaskId × Output)}
    (distinct : (outputs.map Prod.fst).Nodup) (task : TaskId) :
    (recordAll .empty outputs).errors.get? task =
        (Listing.get? task outputs).map entryOf ∧
      (recordAll .empty outputs).results.get? task =
        (Listing.get? task outputs).bind Except.toOption := by
  induction outputs using List.reverseRecOn with
  | nil => exact ⟨rfl, rfl⟩
  | append_singleton earlier last inductionHypothesis =>
    obtain ⟨named, output⟩ := last
    rw [List.map_append, List.nodup_append] at distinct
    obtain ⟨distinct, -, apart⟩ := distinct
    obtain ⟨errors, results⟩ := inductionHypothesis distinct
    have recorded : recordAll .empty (earlier ++ [(named, output)]) =
        (recordAll .empty earlier).record named output := by
      rw [recordAll_append]
      rfl
    rw [recorded, errors_record, Listing.get?_put, Listing.get?_append]
    by_cases same : task = named
    · subst same
      have fresh : Listing.get? task earlier = none :=
        Listing.get?_eq_none_iff.mpr fun member => apart task member task (by simp) rfl
      rw [fresh] at results ⊢
      cases output with
      | ok value => simp [Listing.get?, record, Listing.get?_put, Except.toOption]
      | error error => simpa [Listing.get?, record, Except.toOption] using results
    · have other : named ≠ task := fun equal => same equal.symm
      cases output with
      | ok value => simp [Listing.get?, record, Listing.get?_put, errors, results, same, other]
      | error error => simp [Listing.get?, record, errors, results, same, other]

theorem shows_recordAll {outputs : List (TaskId × Output)} {task : TaskId} {output : Output}
    (distinct : (outputs.map Prod.fst).Nodup) (member : (task, output) ∈ outputs) :
    (recordAll .empty outputs).Shows task output := by
  obtain ⟨errors, results⟩ := get?_recordAll distinct task
  rw [(Listing.get?_eq_some_iff distinct).mpr member] at errors results
  exact ⟨errors, results⟩

/-- Outcomes of outputs that agree on a task agree on it. -/
theorem get?_recordAll_congr {outputs others : List (TaskId × Output)} {task : TaskId}
    (distinct : (outputs.map Prod.fst).Nodup) (alsoDistinct : (others.map Prod.fst).Nodup)
    (same : ∀ output, (task, output) ∈ outputs ↔ (task, output) ∈ others) :
    (recordAll .empty outputs).errors.get? task = (recordAll .empty others).errors.get? task ∧
      (recordAll .empty outputs).results.get? task =
        (recordAll .empty others).results.get? task := by
  have found : Listing.get? task outputs = Listing.get? task others := by
    refine Option.ext fun output => ?_
    rw [Listing.get?_eq_some_iff distinct, Listing.get?_eq_some_iff alsoDistinct, same]
  obtain ⟨errors, results⟩ := get?_recordAll distinct task
  obtain ⟨otherErrors, otherResults⟩ := get?_recordAll alsoDistinct task
  exact ⟨by rw [errors, found, ← otherErrors], by rw [results, found, ← otherResults]⟩

end Outcome

namespace Yard

variable {yard other start : Yard Body} {before history : List (Event Body)} {call : CallId}
  {scope : ScopeId} {entry : Entry Body} {outcome : Outcome}

/-! ### Bodies that have started -/

/-- A job that has started was started by one of the events. -/
theorem Kept.mem_starting (kept : yard.Kept) (nobody : yard.jobs = []) (history : List (Event Body))
    {job : Job Body} (member : job ∈ (yard.after history).jobs) (started : job.started = true) :
    { job with started := false } ∈ yard.chronicle starting history := by
  induction history using List.reverseRecOn generalizing job with
  | nil =>
    rw [after_nil, nobody] at member
    cases member
  | append_singleton earlier event inductionHypothesis =>
    rw [chronicle_concat, List.mem_append]
    rw [after_concat] at member
    cases (kept.after earlier).staffs event with
    | hires recruits jobs idle =>
      rw [jobs] at member
      rcases List.mem_append.mp member with old | new
      · exact .inl (inductionHypothesis old started)
      · simp [idle job new] at started
    | starts id same =>
      subst same
      obtain ⟨⟨former, purpose, body, running⟩, listed, rfl⟩ := List.mem_map.mp member
      by_cases about : former = id
      · subst about
        rw [if_pos rfl]
        cases running with
        | true => exact .inl (inductionHypothesis listed rfl)
        | false => exact .inr (List.mem_filter.mpr ⟨listed, by simp⟩)
      · rw [if_neg about] at started ⊢
        exact .inl (inductionHypothesis listed started)
    | dismisses other _ _ jobs =>
      rw [jobs] at member
      exact .inl (inductionHypothesis (List.mem_of_mem_filter member) started)

section

variable {options : Options} (opened : openNoted? options = .ok start)

include opened

theorem jobs_of_opened : start.jobs = [] := by
  obtain ⟨slots, -, rfl⟩ := openNoted?_eq opened
  rfl

/-- A job that there is for a task is that of the call which took the task, for its body and under
its scope. -/
theorem eq_of_job (takes : start.Takes history call scope entry) {job : Job Body}
    (member : job ∈ (start.after history).jobs) (same : job.purpose.task? = some entry.task) :
    job.assignment = entry.assignment call scope := by
  have kept := (kept_of_opened opened).1
  refine eq_of_takes opened takes ?_ same
  refine (kept.balances_after history).mem (nothing_of_opened opened).1 ?_
  cases started : job.started with
  | true =>
    have starts := kept.mem_starting (jobs_of_opened opened) history member started
    exact .inl (List.mem_map.mpr ⟨_, starts, rfl⟩)
  | false =>
    refine .inr (List.mem_append_left _ (List.mem_map_of_mem ?_))
    exact List.mem_filter.mpr ⟨member, by simp [started]⟩

/-- A task that has started starts no more, whatever happens later. -/
theorem filter_starting (history : List (Event Body)) {job : Job Body} {task : TaskId}
    (starts : job ∈ start.chronicle starting history) (same : job.purpose.task? = some task)
    (later : List (Event Body)) :
    (start.chronicle starting (history ++ later)).filter
      (fun other => other.purpose.task? == some task) = [job] := by
  have once := List.nodup_iff_count_le_one.mp (nodup_startedTasks opened (history ++ later)) task
  rw [startedTasks, List.count_filterMap, List.countP_eq_length_filter] at once
  have listed : job ∈ (start.chronicle starting (history ++ later)).filter
      (fun other => other.purpose.task? == some task) := by
    rw [chronicle_append]
    exact List.mem_filter.mpr ⟨List.mem_append_left _ starts, by simp [same]⟩
  obtain ⟨only, single⟩ := List.length_eq_one_iff.mp
    (Nat.le_antisymm (by simpa using once) (List.length_pos_of_mem listed))
  rw [single, List.mem_singleton] at listed
  rw [single, listed]

end

/-! ### What the call of a batch is told -/

theorem refusals_eq (yard : Yard Body) : yard.refusals = yard.noted.map Prod.fst := by
  rw [refusals, noted, List.map_filterMap]
  congr 1
  funext note
  cases note <;> rfl

/-- The call of a request that is made after a history. -/
def callAfter (start : Yard Body) (before : List (Event Body)) : CallId :=
  ⟨(start.after before).callCount⟩

/-- Whether the body of a task ends in the course of a history of its batch. -/
def Ends (start : Yard Body) (before history : List (Event Body)) (scope : ScopeId)
    (entry : Entry Body) (ending : Ending) : Prop :=
  ∃ earlier job later, history = earlier ++ .finish job ending :: later ∧
    ⟨job, .member (start.callAfter before) entry.task scope, entry.body, true⟩ ∈
      (start.after (before ++ earlier)).jobs

/-- Whether a task is refused its slot in the course of a history of its batch. -/
def IsRefused (start : Yard Body) (before history : List (Event Body)) (task : TaskId)
    (error : PoolError) : Prop :=
  ∃ earlier event later, history = earlier ++ event :: later ∧
    (task, error) ∈ (start.after (before ++ earlier)).refusing (start.callAfter before) event

theorem taskFor?_eq_some_iff {purpose : Purpose} {task : TaskId} :
    purpose.taskFor? call = some task ↔ ∃ scope, purpose = .member call task scope := by
  cases purpose with
  | errand | solo => simp [Purpose.taskFor?]
  | member patron name scope =>
    simp only [Purpose.taskFor?, Purpose.member.injEq]
    split
    · next own => simp [own]
    · next foreign => simp [foreign]

theorem handing_finish {job : JobId} {ending : Ending} {task : TaskId} {output : Output}
    (handed : yard.handing call (.finish job ending) = some (task, output)) :
    output = ending.output ∧ ∃ held ∈ yard.jobs, held.id = job ∧ held.started = true ∧
      ∃ scope, held.purpose = .member call task scope := by
  simp only [handing, Option.bind_eq_some_iff, Option.ite_none_right_eq_some,
    Option.map_eq_some_iff, Prod.mk.injEq] at handed
  obtain ⟨held, found, started, name, works, rfl, same⟩ := handed
  obtain ⟨member, about⟩ := mem_of_job? found
  exact ⟨same.symm, held, member, about, started, taskFor?_eq_some_iff.mp works⟩

theorem handing_abandon {job : JobId} {task : TaskId} {output : Output}
    (handed : yard.handing call (.abandon job) = some (task, output)) :
    ∃ held ∈ yard.jobs, ∃ scope, held.purpose = .member call task scope ∧
      (yard.ended? scope).isSome := by
  simp only [handing, Option.bind_eq_some_iff, Option.map_eq_some_iff, Prod.mk.injEq] at handed
  obtain ⟨held, found, reason, ended, name, works, rfl, -⟩ := handed
  obtain ⟨scope, purpose⟩ := taskFor?_eq_some_iff.mp works
  refine ⟨held, (mem_of_job? found).1, scope, purpose, ?_⟩
  rw [overtaken?, purpose] at ended
  exact Option.isSome_iff_exists.mpr ⟨reason, ended⟩

section

variable {options : Options} (opened : openNoted? options = .ok start)

include opened

theorem mem_of_ends {ending : Ending} (ends : start.Ends before history scope entry ending) :
    (entry.task, ending.output) ∈
      (start.after before).chronicle (learning (start.callAfter before)) history := by
  obtain ⟨earlier, job, later, rfl, member⟩ := ends
  have inOrder := ((kept_of_opened opened).1.after (before ++ earlier)).inOrder
  have found := inOrder.job?_of_mem member
  refine mem_chronicle_of_mem (List.mem_append_left _ ?_) later
  rw [after_append] at found
  simp [handing, found, Purpose.taskFor?]

omit opened in
theorem mem_of_isRefused {task : TaskId} {error : PoolError}
    (refused : start.IsRefused before history task error) :
    (task, .error (.submit error)) ∈
      (start.after before).chronicle (learning (start.callAfter before)) history := by
  obtain ⟨earlier, event, later, rfl, member⟩ := refused
  rw [after_append] at member
  refine mem_chronicle_of_mem (List.mem_append_right _ ?_) later
  exact List.mem_map.mpr ⟨_, member, rfl⟩

omit opened in
/-- The batch was taken before any body ended for it. -/
theorem takes_of_ends {later earlier rest : List (Event Body)} {event : Event Body}
    (begins : history = .begin (.exec scope) :: later) (split : history = earlier ++ event :: rest)
    (ends : event.ends?.isSome) (listed : entry ∈ (start.after before).backlog.batch scope) :
    start.Takes (before ++ earlier) (start.callAfter before) scope entry := by
  rw [begins] at split
  cases earlier with
  | nil =>
    cases split
    cases ends
  | cons first between =>
    cases split
    exact ⟨before, between, rfl, rfl, listed⟩

/-- A call that is handed an output of one of its tasks by the end of a body has it of the body of
that task, which ran under the scope of the batch. -/
theorem ends_of_handing {later earlier rest : List (Event Body)} {job : JobId} {ending : Ending}
    {output : Output} (begins : history = .begin (.exec scope) :: later)
    (split : history = earlier ++ .finish job ending :: rest)
    (listed : entry ∈ (start.after before).backlog.batch scope)
    (handed : (start.after (before ++ earlier)).handing (start.callAfter before)
      (.finish job ending) = some (entry.task, output)) :
    start.Ends before history scope entry ending ∧ output = ending.output := by
  obtain ⟨same, held, running, about, started, under, purpose⟩ := handing_finish handed
  have own := eq_of_job opened (takes_of_ends begins split rfl listed) running
    (by rw [purpose]; rfl)
  refine ⟨⟨earlier, job, rest, split, ?_⟩, same⟩
  obtain ⟨id, _, _, _⟩ := held
  cases own
  cases started
  cases about
  exact running

/-- As long as the scope of a batch has not ended, all that its call is told of a task is what the
body of the task came to, or that the task was refused a slot. -/
theorem told_of_mem {later : List (Event Body)} {output : Output}
    (begins : history = .begin (.exec scope) :: later)
    (going : (start.after (before ++ history)).ended? scope = none)
    (listed : entry ∈ (start.after before).backlog.batch scope)
    (member : (entry.task, output) ∈
      (start.after before).chronicle (learning (start.callAfter before)) history) :
    (∃ ending, start.Ends before history scope entry ending ∧ output = ending.output) ∨
      ∃ error, start.IsRefused before history entry.task error ∧
        output = .error (.submit error) := by
  obtain ⟨earlier, event, rest, split, told⟩ := mem_chronicle member
  rw [← after_append] at told
  rcases List.mem_append.mp told with handed | refused
  · have handed := Option.mem_toList.mp handed
    cases event with
    | finish job ending =>
      exact .inl ⟨ending, ends_of_handing opened begins split listed handed⟩
    | abandon job =>
      obtain ⟨held, running, under, purpose, ended⟩ := handing_abandon handed
      have own := eq_of_job opened (takes_of_ends begins split rfl listed) running
        (by rw [purpose]; rfl)
      obtain rfl : under = scope := by
        have same := congrArg Assignment.purpose own
        rw [Job.assignment, purpose] at same
        exact (Purpose.member.inj same).2.2
      have still := ((kept_of_opened opened).1.after (before ++ earlier)).ended_after
        (honest_of_opened opened _) ended (.abandon job :: rest)
      rw [← after_append, List.append_assoc, ← split, going] at still
      cases still
    | _ => cases handed
  · obtain ⟨⟨task, error⟩, noted, same⟩ := List.mem_map.mp refused
    cases same
    exact .inr ⟨error, ⟨earlier, event, rest, split, noted⟩, rfl⟩

omit opened in
theorem Answered.begins {request : Request Body} {reply : Reply}
    (answered : yard.Answered request reply history) :
    ∃ later, history = .begin request :: later := by
  cases answered with
  | atOnce replied => exact ⟨[], rfl⟩
  | inPoll replied => exact ⟨_, rfl⟩

/-- A batch whose scope has not ended, and that is not told of its timeout, is answered with all
that its call was told. -/
theorem complete_of_timely
    (answered : (start.after before).Answered (.exec scope) (.executed (some outcome)) history)
    (timely : ∀ task span, outcome.error? task ≠ some (.timeout span))
    (going : (start.after (before ++ history)).ended? scope = none) :
    ∃ outputs, outcome = .recordAll .empty outputs ∧ (outputs.map Prod.fst).Nodup ∧
      outputs.Perm ((start.after before).chronicle (learning (start.callAfter before)) history) ∧
      (outputs.map Prod.fst).Perm
        (((start.after before).backlog.batch scope).map Entry.task) := by
  have kept := (kept_of_opened opened).1
  obtain ⟨entries, batch, concludes⟩ :=
    (kept.after before).concludes (fun _ => ne_nil_of_stored opened before) answered
  rw [Backlog.batch_of_get? batch]
  cases concludes with
  | complete same distinct told full => exact ⟨_, same, distinct, told, full⟩
  | @fails earlier last split whole short =>
    cases whole with
    | timeout past same =>
      obtain ⟨entry, rest, first⟩ :=
        List.exists_cons_of_ne_nil (ne_nil_of_stored opened before batch)
      refine absurd ?_ (timely entry.task (start.after before).timeout)
      rw [same, first]
      simp [Outcome.error?, Outcome.failAll, taken, Listing.get?]
    | ended ended same =>
      rw [← after_append] at ended
      have still := (kept.after (before ++ earlier)).ended_after (honest_of_opened opened _)
        (Option.isSome_iff_exists.mpr ⟨_, ended⟩) [last]
      rw [← after_append, List.append_assoc, ← split] at still
      rw [show (taken scope _ _ entries).scope = scope from rfl, going] at still
      cases still

end

/-! ### A body that ends otherwise -/

theorem overOutputs_job (held : Job Body) : Veil.overOutputs.job held = held := by
  obtain ⟨id, purpose, body, started⟩ := held
  cases purpose <;> rfl

/-- In yards that differ only in what bodies came to, a call is told the same by every event. -/
theorem learning_congr (alike : Veil.overOutputs.Alike yard other)
    (timed : yard.timeout = other.timeout) (call : CallId) (event : Event Body) :
    yard.learning call event = other.learning call event := by
  have jobs : ∀ id, yard.job? id = other.job? id := fun id => by
    have same := alike.job? id
    rwa [funext overOutputs_job, Option.map_id', Option.map_id'] at same
  have noted : ∀ {first second : Yard Body}, Veil.overOutputs.Alike first second →
      first.noted = second.noted := fun {first second} looks => by
    have said : ∀ note : Note, (Veil.overOutputs.note? note).bind Note.refusal? = note.refusal? :=
      fun note => by cases note <;> rfl
    have same := congrArg (List.filterMap Note.refusal?) looks.journal
    rwa [List.filterMap_filterMap, List.filterMap_filterMap, funext said] at same
  have after := alike.step event (fun _ _ => timed) (fun _ _ none => by cases none)
    fun _ _ _ _ _ _ none => by cases none
  have handed : yard.handing call event = other.handing call event := by
    cases event with
    | finish job ending => simp only [handing, jobs]
    | abandon job => simp only [handing, jobs, overtaken?, alike.ended?]
    | _ => rfl
  have deals : yard.dealsWith call event = other.dealsWith call event := by
    cases event <;> simp only [dealsWith, alike.callCount]
  rw [learning, learning, handed, refusing, refusing, deals, noted after, noted alike]

theorem chronicle_learning_congr (kept : yard.Kept) (keptOther : other.Kept)
    (alike : Veil.overOutputs.Alike yard other) (timed : yard.timeout = other.timeout)
    (call : CallId) (history : List (Event Body)) :
    yard.chronicle (learning call) history = other.chronicle (learning call) history := by
  induction history using List.reverseRecOn with
  | nil => rfl
  | append_singleton earlier event inductionHypothesis =>
    obtain ⟨looks, same⟩ := alike_after rfl kept keptOther alike timed earlier
    rw [chronicle_concat, chronicle_concat, inductionHypothesis, learning_congr looks same]

/-- A body that ends otherwise leaves the yard as it would have been, but for what is hidden. -/
theorem Kept.alike_finish (kept : yard.Kept) (job : JobId) (ending instead : Ending)
    (later : List (Event Body)) :
    Veil.overOutputs.Alike (yard.after (.finish job ending :: later))
      (yard.after (.finish job instead :: later)) ∧
    (yard.after (.finish job ending :: later)).timeout =
      (yard.after (.finish job instead :: later)).timeout := by
  refine alike_after rfl (kept.step _) (kept.step _) ?_ ?_ later
  · exact (Veil.Alike.refl yard).finishJob job ending instead
  · exact (kept.timeout_step (.finish job ending)).trans
      (kept.timeout_step (.finish job instead)).symm

/-- What a call is told if a body ends otherwise: as much as before, and the same of every other
task. -/
theorem Kept.chronicle_finish (kept : yard.Kept) (call : CallId) (job : JobId)
    (ending instead : Ending) (later : List (Event Body)) :
    (yard.chronicle (learning call) (.finish job ending :: later)).length =
        (yard.chronicle (learning call) (.finish job instead :: later)).length ∧
      ∀ task output, (∀ held ∈ yard.jobs, held.id = job → held.purpose.task? ≠ some task) →
        ((task, output) ∈ yard.chronicle (learning call) (.finish job ending :: later) ↔
          (task, output) ∈ yard.chronicle (learning call) (.finish job instead :: later)) := by
  have alike : Veil.overOutputs.Alike (yard.step (.finish job ending))
      (yard.step (.finish job instead)) := (Veil.Alike.refl yard).finishJob job ending instead
  have behind := chronicle_learning_congr (kept.step _) (kept.step _) alike
    ((kept.timeout_step (.finish job ending)).trans
      (kept.timeout_step (.finish job instead)).symm) call later
  have apart : ∀ task output,
      (∀ held ∈ yard.jobs, held.id = job → held.purpose.task? ≠ some task) →
      ∀ ending, (task, output) ∉ (yard.handing call (.finish job ending)).toList := by
    intro task output others ending handed
    obtain ⟨-, held, member, about, -, scope, purpose⟩ :=
      handing_finish (Option.mem_toList.mp handed)
    exact others held member about (by rw [purpose]; rfl)
  have news : ∀ ending, yard.learning call (.finish job ending) =
      (yard.handing call (.finish job ending)).toList := fun ending => by
    simp [learning, refusing, dealsWith]
  rw [chronicle, chronicle, behind, news, news]
  refine ⟨?_, fun task output others => ?_⟩
  · simp only [List.length_append, handing]
    cases yard.job? job with
    | none => rfl
    | some held =>
      cases started : held.started <;> cases works : held.purpose.taskFor? call <;>
        simp [started, works]
  · simp only [List.mem_append, apart task output others, false_or]

/-- What a call is told in a history if a body ends otherwise in it. -/
theorem Kept.chronicle_instead (kept : yard.Kept) (call : CallId) (earlier : List (Event Body))
    (job : JobId) (ending instead : Ending) (later : List (Event Body)) :
    (yard.chronicle (learning call) (earlier ++ .finish job ending :: later)).length =
        (yard.chronicle (learning call) (earlier ++ .finish job instead :: later)).length ∧
      ∀ task output,
        (∀ held ∈ (yard.after earlier).jobs, held.id = job → held.purpose.task? ≠ some task) →
        ((task, output) ∈ yard.chronicle (learning call) (earlier ++ .finish job ending :: later) ↔
          (task, output) ∈
            yard.chronicle (learning call) (earlier ++ .finish job instead :: later)) := by
  obtain ⟨counted, same⟩ := (kept.after earlier).chronicle_finish call job ending instead later
  rw [chronicle_append, chronicle_append, List.length_append, List.length_append, counted]
  refine ⟨rfl, fun task output others => ?_⟩
  rw [List.mem_append, List.mem_append, same task output others]

/-- A body that ends in the course of an answer ends between the beginning and the last poll. -/
theorem Answered.around_finish {request : Request Body} {reply : Reply}
    {earlier later : List (Event Body)} {job : JobId} {ending : Ending}
    (answered : yard.Answered request reply (earlier ++ .finish job ending :: later)) :
    ∃ first last, earlier = .begin request :: first ∧
      later = last ++ [.poll (yard.begin request).1] ∧
      (((yard.begin request).2.2.after (first ++ .finish job ending :: last)).poll
        (yard.begin request).1).1 = some reply := by
  generalize split : earlier ++ .finish job ending :: later = history at answered
  cases answered with
  | atOnce replied =>
    cases earlier with
    | nil => cases split
    | cons first rest => simp at split
  | @inPoll between polled =>
    cases earlier with
    | nil => cases split
    | cons event first =>
      have begins := (List.cons.inj split).1
      have rest : first ++ .finish job ending :: later =
          between ++ [.poll (yard.begin request).1] := (List.cons.inj split).2
      rcases List.eq_nil_or_concat' later with rfl | ⟨last, event, rfl⟩
      · cases (List.append_inj' rest rfl).2
      · rw [← List.cons_append, ← List.append_assoc] at rest
        obtain ⟨front, ends⟩ := List.append_inj' rest rfl
        rw [← front] at polled
        exact ⟨first, last, by rw [begins], by rw [ends], polled⟩

/-- If a body had ended otherwise, the batch would have been answered in the same poll. -/
theorem Kept.answered_instead (kept : yard.Kept) {earlier later : List (Event Body)} {job : JobId}
    {ending : Ending} (instead : Ending) {entries : List (Entry Body)}
    (batch : yard.backlog.batches.get? scope = some entries)
    (answered : yard.Answered (.exec scope) (.executed (some outcome))
      (earlier ++ .finish job ending :: later)) :
    ∃ other, yard.Answered (.exec scope) (.executed (some other))
      (earlier ++ .finish job instead :: later) := by
  have requested := concern?_exec batch
  obtain ⟨first, last, rfl, rfl, polled⟩ := answered.around_finish
  obtain ⟨alike, -⟩ :=
    ((kept.begin (.exec scope)).after first).alike_finish job ending instead last
  have unmasked : Veil.overOutputs.masked ≠ some (yard.begin (.exec scope)).1 :=
    (Option.some_ne_none _).symm
  have agrees := alike.poll unmasked
  rw [← after_append, ← after_append] at agrees
  have some : (Option.some (Reply.executed (Option.some outcome))).isSome = _ :=
    polled ▸ agrees.answered
  obtain ⟨reply, replied⟩ := Option.isSome_iff_exists.mp some.symm
  obtain ⟨other, rfl, -⟩ := (kept.isMetBy requested (.inr ⟨_, replied⟩)).outcome
  refine ⟨other, ?_⟩
  have answered := Answered.inPoll replied
  simpa using answered

/-! ### Every task for itself -/

/-- What is promised of the outcome of a batch that comes to its answer by itself. -/
structure Isolates (start : Yard Body) (before : List (Event Body)) (scope : ScopeId)
    (history : List (Event Body)) (outcome : Outcome) : Prop where
  /-- The outcome speaks of the tasks of the batch, and these are such as were pushed under its
  scope. -/
  tasks : outcome.tasks.Perm (((start.after before).backlog.batch scope).map Entry.task)
  bound : ∀ entry ∈ (start.after before).backlog.batch scope,
    (scope, entry) ∈ start.chronicle pushing before
  /-- The body of a task ends, or the task is refused its slot. -/
  accounted : ∀ entry ∈ (start.after before).backlog.batch scope,
    (∃ ending, start.Ends before history scope entry ending) ∨
      ∃ error, start.IsRefused before history entry.task error
  /-- A task whose body ends is shown with what it came to. The body started once, as it was pushed
  and under the scope of the batch, and does not start again. -/
  ran : ∀ entry ∈ (start.after before).backlog.batch scope, ∀ ending,
    start.Ends before history scope entry ending →
    outcome.Shows entry.task ending.output ∧
      ∃ job, ∀ later, (start.chronicle starting (before ++ history ++ later)).filter
        (fun other => other.purpose.task? == some entry.task) =
          [⟨job, .member (start.callAfter before) entry.task scope, entry.body, false⟩]
  /-- A task that is refused its slot is shown with the reason, and its body does not start. -/
  refused : ∀ entry ∈ (start.after before).backlog.batch scope, ∀ error,
    start.IsRefused before history entry.task error →
    outcome.Shows entry.task (.error (.submit error)) ∧
      (error = .closed ∨ error = .saturated start.options.capacity) ∧
      ∀ later, entry.task ∉ start.startedTasks (before ++ history ++ later)
  /-- If a body ended otherwise at the same time, the batch would be answered in the same poll, and
  the entries of all other tasks would be the same. -/
  replaced : ∀ earlier job ending later instead, history = earlier ++ .finish job ending :: later →
    ∃ other, (start.after before).Answered (.exec scope) (.executed (some other))
        (earlier ++ .finish job instead :: later) ∧
      (start.after (before ++ earlier ++ .finish job instead :: later)).now =
        (start.after (before ++ history)).now ∧
      ∀ task, (∀ held ∈ (start.after (before ++ earlier)).jobs, held.id = job →
          held.purpose.task? ≠ some task) →
        other.errors.get? task = outcome.errors.get? task ∧
          other.results.get? task = outcome.results.get? task

section

variable {options : Options} (opened : openNoted? options = .ok start)

include opened

/-- A task that was refused a slot never starts. -/
theorem not_mem_of_refusing {call : CallId} {event : Event Body} {task : TaskId}
    {error : PoolError} (told : (task, error) ∈ (start.after history).refusing call event)
    (later : List (Event Body)) : task ∉ start.startedTasks (history ++ event :: later) := by
  have noted : (task, error) ∈ (start.after (history ++ [event])).noted := by
    unfold refusing at told
    rw [after_concat]
    split at told
    · exact List.mem_of_mem_drop told
    · cases told
  have refused : task ∈ (start.after (history ++ [event])).refusals := by
    rw [refusals_eq]
    exact List.mem_map_of_mem noted
  rw [← List.singleton_append, ← List.append_assoc]
  exact not_mem_of_refused opened refused

/-- A task is refused its slot because they are closed or all taken, and it never starts. -/
theorem IsRefused.neverStarts {task : TaskId} {error : PoolError}
    (refused : start.IsRefused before history task error) :
    (error = .closed ∨ error = .saturated start.options.capacity) ∧
      ∀ later, task ∉ start.startedTasks (before ++ history ++ later) := by
  obtain ⟨earlier, event, rest, rfl, member⟩ := refused
  have reached : Reached options (start.after (before ++ earlier)) := ⟨start, _, opened, rfl⟩
  obtain ⟨-, -, capacity⟩ := reached.kept
  obtain ⟨-, configured, -⟩ := kept_openNoted? opened
  refine ⟨?_, fun later => ?_⟩
  · rw [configured, ← capacity]
    exact error_of_refusing member
  · have split : before ++ (earlier ++ event :: rest) ++ later =
        before ++ earlier ++ event :: (rest ++ later) := by simp
    exact split ▸ not_mem_of_refusing opened member _

/-- A task whose body ends had started once before, as it was pushed, and does not start again. -/
theorem Ends.startedOnce {ending : Ending}
    (ends : start.Ends before history scope entry ending) :
    ∃ job, ∀ later, (start.chronicle starting (before ++ history ++ later)).filter
      (fun other => other.purpose.task? == some entry.task) =
        [⟨job, .member (start.callAfter before) entry.task scope, entry.body, false⟩] := by
  obtain ⟨earlier, job, rest, rfl, member⟩ := ends
  have kept := (kept_of_opened opened).1
  have starts := kept.mem_starting (jobs_of_opened opened) (before ++ earlier) member rfl
  refine ⟨job, fun later => ?_⟩
  have split : before ++ (earlier ++ .finish job ending :: rest) ++ later =
      before ++ earlier ++ (.finish job ending :: rest ++ later) := by simp
  rw [split]
  exact filter_starting opened (before ++ earlier) starts rfl _

/-- Each task of a batch that comes to its answer by itself has the entry that is its own. -/
theorem isolates
    (answered : (start.after before).Answered (.exec scope) (.executed (some outcome)) history)
    (timely : ∀ task span, outcome.error? task ≠ some (.timeout span))
    (going : (start.after (before ++ history)).ended? scope = none) :
    start.Isolates before scope history outcome := by
  obtain ⟨kept, distinct⟩ := kept_of_opened opened
  have keptThen := kept.after before
  have stocked : ∀ entries, (start.after before).backlog.batches.get? scope = some entries →
      entries ≠ [] := fun _ => ne_nil_of_stored opened before
  obtain ⟨later, begins⟩ := answered.begins
  obtain ⟨outputs, same, apart, told, full⟩ := complete_of_timely opened answered timely going
  have shown : ∀ {task output}, (task, output) ∈
      (start.after before).chronicle (learning (start.callAfter before)) history →
      outcome.Shows task output := fun member => by
    rw [same]
    exact Outcome.shows_recordAll apart (told.mem_iff.mpr member)
  exact {
    tasks := by rwa [same, Batch.tasks_of_outputs apart]
    bound := fun entry listed => by
      have stocks := kept.stocks_after distinct before
      exact stocks.mem (nothing_of_opened opened).2.1 (Backlog.mem_entries stocks.distinct listed)
    accounted := fun entry listed => by
      have named := full.mem_iff.mpr (List.mem_map_of_mem listed)
      obtain ⟨⟨task, output⟩, member, rfl⟩ := List.mem_map.mp named
      rcases told_of_mem opened begins going listed (told.mem_iff.mp member) with
        ⟨ending, ends, -⟩ | ⟨error, refused, -⟩
      · exact .inl ⟨ending, ends⟩
      · exact .inr ⟨error, refused⟩
    ran := fun entry listed ending ends =>
      ⟨shown (mem_of_ends opened ends), ends.startedOnce opened⟩
    refused := fun entry listed error refused =>
      ⟨shown (mem_of_isRefused refused), refused.neverStarts opened⟩
    replaced := fun earlier job ending later instead split => by
      obtain ⟨entries, batch, -⟩ := keptThen.concludes stocked answered
      have all := Backlog.batch_of_get? batch
      rw [split] at answered told
      obtain ⟨other, otherwise⟩ := keptThen.answered_instead instead batch answered
      obtain ⟨counted, alike⟩ :=
        keptThen.chronicle_instead (start.callAfter before) earlier job ending instead later
      refine ⟨other, otherwise, ?_, fun task foreign => ?_⟩
      · obtain ⟨looks, -⟩ :=
          (keptThen.after earlier).alike_finish job ending instead later
        rw [split, after_append, after_append, after_append, after_append]
        exact looks.now.symm
      · obtain ⟨items, stored, concludes⟩ := keptThen.concludes stocked otherwise
        rw [batch] at stored
        cases stored
        rw [after_append] at foreign
        cases concludes with
        | complete otherSame otherApart otherTold =>
          rw [same, otherSame]
          refine Outcome.get?_recordAll_congr otherApart apart fun output => ?_
          rw [otherTold.mem_iff, told.mem_iff]
          exact (alike task output foreign).symm
        | fails _ _ short =>
          have filled := full.length_eq
          rw [List.length_map, List.length_map, told.length_eq, all] at filled
          exact absurd short (Nat.not_lt.mpr (filled.symm.trans counted).le) }

end

/-- Four tasks for one batch. -/
def crowd : List (Event Unit) :=
  [.openScope .root, .push ⟨1⟩ "value" (), .push ⟨1⟩ "error" (), .push ⟨1⟩ "panic" (),
    .push ⟨1⟩ "refused" ()]

/-- Three bodies come to a panic, a value and an error, and there is no slot for the fourth. -/
def medley : List (Event Unit) :=
  [.start ⟨0⟩, .start ⟨1⟩, .start ⟨2⟩, .finish ⟨2⟩ (.panicked (.message "oh")),
    .finish ⟨0⟩ (.returned (.flag true)), .finish ⟨1⟩ (.failed (.ofMessage "no"))]

theorem isolates_medley : ∃ (start : Yard Unit) (outcome : Outcome),
    openNoted? ⟨3, true, 0, .ofSeconds 10, false⟩ = .ok start ∧
    outcome.errors = [(⟨3, "refused"⟩, some (.submit (.saturated 3))),
      (⟨2, "panic"⟩, some (.panicked "oh")), (⟨0, "value"⟩, none),
      (⟨1, "error"⟩, some (.failed (.ofMessage "no")))] ∧
    outcome.results = [(⟨0, "value"⟩, .flag true)] ∧
    start.Isolates crowd ⟨1⟩ (.begin (.exec ⟨1⟩) :: medley ++ [.poll ⟨0⟩]) outcome := by
  have run : ∃ (start : Yard Unit) (outcome : Outcome),
      openNoted? ⟨3, true, 0, .ofSeconds 10, false⟩ = .ok start ∧
      outcome.errors = [(⟨3, "refused"⟩, some (.submit (.saturated 3))),
        (⟨2, "panic"⟩, some (.panicked "oh")), (⟨0, "value"⟩, none),
        (⟨1, "error"⟩, some (.failed (.ofMessage "no")))] ∧
      outcome.results = [(⟨0, "value"⟩, .flag true)] ∧
      (start.after crowd).Answered (.exec ⟨1⟩) (.executed (some outcome))
        (.begin (.exec ⟨1⟩) :: medley ++ [.poll ⟨0⟩]) ∧
      (start.after (crowd ++ (.begin (.exec ⟨1⟩) :: medley ++ [.poll ⟨0⟩]))).ended? ⟨1⟩ = none :=
    ⟨_, _, rfl, rfl, rfl, .inPoll rfl, rfl⟩
  obtain ⟨start, outcome, opened, errors, results, answered, going⟩ := run
  refine ⟨start, outcome, opened, errors, results, isolates opened answered ?_ going⟩
  intro task span late
  rw [Outcome.error?, errors, Option.join_eq_some_iff,
    Listing.get?_eq_some_iff (by decide)] at late
  simp at late

end Yard

end Taskyard

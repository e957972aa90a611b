/-
This file shows that reading an outcome does not damage it. Whoever has the
outcome of a batch may look at values, take values out and ask for errors, in any
order, about any tasks and with any kinds in mind. The errors and the counts stay
as they are. A value can be taken out once, under its own kind, and it is the one
that the body of its task returned; the other values are still there afterwards.
A call that finds nothing has no effect at all, though taking first removes the
value and puts it back when it turns out to be of another kind: what is put back
goes to the end of the listing, so that two outcomes count as the same here if
they have the same under every task.
-/

import Taskyard.Proofs.Isolation

namespace Taskyard

/-- A call that reads an outcome. -/
inductive Reading where
  | result (task : TaskId) (kind : Kind)
  | takeResult (task : TaskId) (kind : Kind)
  | error (task : TaskId)
deriving DecidableEq, Repr

/-- What a reader is told. -/
inductive Finding where
  | value (value : Option Value)
  | error (error : Option TaskError)
deriving DecidableEq, Repr

theorem Value.read?_eq_some_iff {value other : Value} {kind : Kind} :
    value.read? kind = some other ↔ other = value ∧ value.kind = kind := by
  unfold read?
  split
  · next same => simp [same, eq_comm]
  · next different => simp [different]

namespace Outcome

variable {outcome other : Outcome} {task : TaskId} {kind : Kind} {value : Value}

/-! ### Taking a value out -/

theorem result?_eq_some_iff : outcome.result? task kind = some value ↔
    outcome.results.get? task = some value ∧ value.kind = kind := by
  rw [result?, Option.bind_eq_some_iff]
  constructor
  · rintro ⟨held, found, read⟩
    obtain ⟨rfl, same⟩ := Value.read?_eq_some_iff.mp read
    exact ⟨found, same⟩
  · rintro ⟨found, same⟩
    exact ⟨value, found, Value.read?_eq_some_iff.mpr ⟨rfl, same⟩⟩

theorem takeResult_of_absent (absent : outcome.results.get? task = none) (kind : Kind) :
    outcome.takeResult task kind = (none, outcome) := by
  rw [takeResult, absent]

theorem takeResult_of_kind (found : outcome.results.get? task = some value) :
    outcome.takeResult task value.kind =
      (some value, { outcome with results := outcome.results.remove task }) := by
  simp [takeResult, found, Value.read?]

theorem takeResult_of_mismatch (found : outcome.results.get? task = some value)
    (mismatch : value.kind ≠ kind) : outcome.takeResult task kind =
      (none, { outcome with results := (outcome.results.remove task).put task value }) := by
  simp [takeResult, found, Value.read?, mismatch]

/-- Taking gives what looking shows, and of all values only the one that is taken out is gone: one
that is put back is there as before. -/
theorem takeResult_frame (outcome : Outcome) (task : TaskId) (kind : Kind) :
    (outcome.takeResult task kind).1 = outcome.result? task kind ∧
      ∀ about, (outcome.takeResult task kind).2.results.get? about =
        if about = task ∧ (outcome.result? task kind).isSome then none
        else outcome.results.get? about := by
  cases found : outcome.results.get? task with
  | none => simp [takeResult_of_absent found, result?, found]
  | some value =>
    by_cases same : value.kind = kind
    · subst same
      simp [takeResult_of_kind found, result?, found, Value.read?, Listing.get?_remove]
    · have unread : outcome.result? task kind = none := by simp [result?, found, Value.read?, same]
      rw [takeResult_of_mismatch found same, unread]
      refine ⟨rfl, fun about => ?_⟩
      rw [Listing.get?_put, Listing.get?_remove]
      by_cases here : about = task <;> simp [here, found]

theorem fst_takeResult (outcome : Outcome) (task : TaskId) (kind : Kind) :
    (outcome.takeResult task kind).1 = outcome.result? task kind :=
  (outcome.takeResult_frame task kind).1

theorem get?_takeResult (outcome : Outcome) (task : TaskId) (kind : Kind) (about : TaskId) :
    (outcome.takeResult task kind).2.results.get? about =
      if about = task ∧ (outcome.takeResult task kind).1.isSome then none
      else outcome.results.get? about := by
  rw [fst_takeResult, (outcome.takeResult_frame task kind).2]

/-! ### Readings, one after the other -/

/-- What a reading finds, and the outcome that it leaves. -/
def read (outcome : Outcome) : Reading → Finding × Outcome
  | .result task kind => (.value (outcome.result? task kind), outcome)
  | .takeResult task kind =>
    let (value, left) := outcome.takeResult task kind
    (.value value, left)
  | .error task => (.error (outcome.error? task), outcome)

/-- The outcome that several readings leave. -/
def left (outcome : Outcome) : List Reading → Outcome
  | [] => outcome
  | reading :: rest => (outcome.read reading).2.left rest

/-- What several readings find. -/
def findings (outcome : Outcome) : List Reading → List Finding
  | [] => []
  | reading :: rest => (outcome.read reading).1 :: (outcome.read reading).2.findings rest

/-- The task whose value a reading takes out. -/
def taking (outcome : Outcome) : Reading → Option TaskId
  | .takeResult task kind => (outcome.takeResult task kind).1.map fun _ => task
  | .result _ _ | .error _ => none

/-- The tasks whose values several readings take out. -/
def taken (outcome : Outcome) : List Reading → List TaskId
  | [] => []
  | reading :: rest => (outcome.taking reading).toList ++ (outcome.read reading).2.taken rest

theorem errors_read (outcome : Outcome) (reading : Reading) :
    (outcome.read reading).2.errors = outcome.errors := by
  cases reading with
  | takeResult task kind => exact outcome.errors_takeResult task kind
  | _ => rfl

theorem get?_read (outcome : Outcome) (reading : Reading) (about : TaskId) :
    (outcome.read reading).2.results.get? about =
      if outcome.taking reading = some about then none else outcome.results.get? about := by
  cases reading with
  | takeResult task kind =>
    refine (get?_takeResult outcome task kind about).trans (if_congr ?_ rfl rfl)
    rw [taking, Option.map_eq_some_iff, Option.isSome_iff_exists]
    constructor
    · rintro ⟨same, value, took⟩
      exact ⟨value, took, same.symm⟩
    · rintro ⟨value, took, same⟩
      exact ⟨same.symm, value, took⟩
  | _ => rfl

theorem errors_left (outcome : Outcome) (readings : List Reading) :
    (outcome.left readings).errors = outcome.errors := by
  induction readings generalizing outcome with
  | nil => rfl
  | cons reading rest inductionHypothesis =>
    rw [left, inductionHypothesis, errors_read]

/-- After any readings the values are there that were not taken out. -/
theorem get?_left (outcome : Outcome) (readings : List Reading) (about : TaskId) :
    (outcome.left readings).results.get? about =
      if about ∈ outcome.taken readings then none else outcome.results.get? about := by
  induction readings generalizing outcome with
  | nil => simp [left, taken]
  | cons reading rest inductionHypothesis =>
    rw [left, taken, inductionHypothesis, get?_read]
    simp only [List.mem_append, Option.mem_toList]
    by_cases behind : about ∈ (outcome.read reading).2.taken rest <;> simp [behind]

/-! ### Outcomes that a reader cannot tell apart -/

/-- Whether two outcomes have the same under every task. -/
structure Agrees (outcome other : Outcome) : Prop where
  errors : outcome.errors = other.errors
  values : ∀ task, outcome.results.get? task = other.results.get? task

theorem Agrees.read (agrees : outcome.Agrees other) (reading : Reading) :
    (outcome.read reading).1 = (other.read reading).1 ∧
      (outcome.read reading).2.Agrees (other.read reading).2 := by
  have looks : ∀ task kind, outcome.result? task kind = other.result? task kind := fun task kind =>
    by rw [result?, result?, agrees.values]
  have takes : outcome.taking reading = other.taking reading := by
    cases reading with
    | takeResult task kind => rw [taking, taking, fst_takeResult, fst_takeResult, looks]
    | _ => rfl
  refine ⟨?_, ⟨?_, fun task => ?_⟩⟩
  · cases reading with
    | result task kind => exact congrArg Finding.value (looks task kind)
    | takeResult task kind =>
      show Finding.value (outcome.takeResult task kind).1 = .value (other.takeResult task kind).1
      rw [fst_takeResult, fst_takeResult, looks]
    | error task =>
      refine congrArg Finding.error ?_
      rw [error?, error?, agrees.errors]
  · rw [errors_read, errors_read, agrees.errors]
  · rw [get?_read, get?_read, takes, agrees.values]

theorem Agrees.findings (agrees : outcome.Agrees other) (readings : List Reading) :
    outcome.findings readings = other.findings readings := by
  induction readings generalizing outcome other with
  | nil => rfl
  | cons reading rest inductionHypothesis =>
    obtain ⟨same, after⟩ := agrees.read reading
    rw [Outcome.findings, Outcome.findings, same, inductionHypothesis after]

/-- A reading that takes no value out leaves an outcome that has the same under every task. -/
theorem agrees_read_of_taking {reading : Reading} (nothing : outcome.taking reading = none) :
    (outcome.read reading).2.Agrees outcome where
  errors := errors_read outcome reading
  values task := by
    rw [get?_read, nothing, if_neg (Option.some_ne_none task).symm]

/-! ### What the counts say -/

/-- Whether two outcomes say the same of how many tasks there are and how many of them failed. -/
structure CountsAlike (outcome other : Outcome) : Prop where
  size : outcome.size = other.size
  failed : outcome.failedCount = other.failedCount
  succeeded : outcome.succeededCount = other.succeededCount
  success : outcome.isSuccess = other.isSuccess

/-- The counts are read off the errors. -/
theorem countsAlike_of_errors (same : outcome.errors = other.errors) :
    outcome.CountsAlike other := by
  have size : outcome.size = other.size := by rw [Outcome.size, same, Outcome.size]
  have failed : outcome.failedCount = other.failedCount := by
    rw [failedCount, same, failedCount]
  exact {
    size := size
    failed := failed
    succeeded := by rw [succeededCount, size, failed, succeededCount]
    success := by rw [isSuccess, failed, isSuccess] }

end Outcome

namespace Yard

variable {Body : Type} {start : Yard Body} {before history : List (Event Body)} {scope : ScopeId}
  {outcome : Outcome} {task : TaskId} {value : Value}

/-! ### Where the values come from -/

/-- Whether a task of a batch came to this value: it did not fail, and its body returned the value
in the course of the history. -/
structure Yields (start : Yard Body) (before history : List (Event Body)) (scope : ScopeId)
    (outcome : Outcome) (task : TaskId) (value : Value) : Prop where
  succeeded : outcome.errors.get? task = some none
  returned : ∃ entry ∈ (start.after before).backlog.batch scope, entry.task = task ∧
    start.Ends before history scope entry (.returned value)

section

variable {options : Options} (opened : openNoted? options = .ok start)

include opened

/-- What the call of a batch is told of a task is what the body of the task came to, unless it was
dropped or refused its slot. -/
theorem ends_of_learning {later : List (Event Body)} {entry : Entry Body} {output : Output}
    (begins : history = .begin (.exec scope) :: later)
    (listed : entry ∈ (start.after before).backlog.batch scope)
    (member : (entry.task, output) ∈
      (start.after before).chronicle (learning (start.callAfter before)) history) :
    (∃ ending, start.Ends before history scope entry ending ∧ output = ending.output) ∨
      (∃ reason, output = .error (.scope reason)) ∨ ∃ error, output = .error (.submit error) := by
  obtain ⟨earlier, event, rest, split, told⟩ := mem_chronicle member
  rw [← after_append] at told
  rcases List.mem_append.mp told with handed | refused
  · have handed := Option.mem_toList.mp handed
    cases event with
    | finish job ending =>
      exact .inl ⟨ending, ends_of_handing opened begins split listed handed⟩
    | abandon job =>
      simp only [handing, Option.bind_eq_some_iff, Option.map_eq_some_iff, Prod.mk.injEq] at handed
      obtain ⟨held, -, reason, -, name, -, -, same⟩ := handed
      exact .inr (.inl ⟨reason, same.symm⟩)
    | _ => cases handed
  · obtain ⟨⟨task, error⟩, -, same⟩ := List.mem_map.mp refused
    exact .inr (.inr ⟨error, (Prod.mk.inj same).2.symm⟩)

/-- An outcome has the values that its tasks came to, and no others. -/
theorem get?_eq_some_iff_yields
    (answered : (start.after before).Answered (.exec scope) (.executed (some outcome)) history) :
    outcome.results.get? task = some value ↔
      start.Yields before history scope outcome task value := by
  have kept := (kept_of_opened opened).1
  obtain ⟨later, begins⟩ := answered.begins
  obtain ⟨entries, batch, concludes⟩ :=
    (kept.after before).concludes (fun _ => ne_nil_of_stored opened before) answered
  have listed := Backlog.batch_of_get? batch
  have whole : ∀ {tasks : List TaskId} {error : TaskError}, outcome = .failAll tasks error →
      (outcome.results.get? task = some value ↔
        start.Yields before history scope outcome task value) := by
    rintro tasks error rfl
    refine iff_of_false (by simp [Outcome.failAll, Listing.get?]) fun yields => ?_
    exact Outcome.get?_failAll_ne tasks error task yields.succeeded
  cases concludes with
  | @complete outputs same distinct told full =>
    constructor
    · intro found
      have shown := (Outcome.get?_recordAll distinct task).2
      rw [← same, found, eq_comm, Option.bind_eq_some_iff] at shown
      obtain ⟨output, known, isOk⟩ := shown
      have member := (Listing.get?_eq_some_iff distinct).mp known
      obtain ⟨entry, inBatch, rfl⟩ := List.mem_map.mp (full.mem_iff.mp (List.mem_map_of_mem member))
      cases output with
      | error => cases isOk
      | ok held =>
        cases isOk
        refine ⟨?_, entry, listed ▸ inBatch, rfl, ?_⟩
        · rw [same]
          exact (Outcome.shows_recordAll distinct member).error
        · obtain ⟨ending, ends, output⟩ | ⟨_, none⟩ | ⟨_, none⟩ :=
            ends_of_learning opened begins (listed ▸ inBatch) (told.mem_iff.mp member)
          · cases ending <;> cases output
            exact ends
          · cases none
          · cases none
    · rintro ⟨-, entry, -, rfl, ends⟩
      rw [same]
      exact (Outcome.shows_recordAll distinct (told.mem_iff.mpr (mem_of_ends opened ends))).value
  | fails _ failed =>
    cases failed with
    | timeout _ same => exact whole same
    | ended _ same => exact whole same

/-! ### Reading the outcome of a batch -/

/-- What is promised to whoever has the outcome of a batch, after any readings. -/
structure Endures (start : Yard Body) (before history : List (Event Body)) (scope : ScopeId)
    (outcome : Outcome) (readings : List Reading) : Prop where
  errors : (outcome.left readings).errors = outcome.errors
  counts : (outcome.left readings).CountsAlike outcome
  /-- A value can be taken out if the task came to it, it is of the kind that is asked for, and it
  was not taken out before; and no other value can. -/
  takes : ∀ task kind value, ((outcome.left readings).takeResult task kind).1 = some value ↔
    start.Yields before history scope outcome task value ∧ value.kind = kind ∧
      task ∉ outcome.taken readings
  /-- Only the value that is taken out is gone then. -/
  removes : ∀ task kind, ((outcome.left readings).takeResult task kind).1.isSome →
    ∀ other otherKind, (((outcome.left readings).takeResult task kind).2.result? other otherKind) =
      if other = task then none else (outcome.left readings).result? other otherKind
  /-- Nothing is found of a task that did not succeed, be it that it failed or that the outcome does
  not speak of it, or whose value was taken out, or is of another kind. -/
  misses : ∀ task kind, outcome.errors.get? task ≠ some none ∨ task ∈ outcome.taken readings ∨
      (∃ value, start.Yields before history scope outcome task value ∧ value.kind ≠ kind) →
    ((outcome.left readings).takeResult task kind).1 = none
  /-- A call that takes no value out makes no difference to what any later calls find. -/
  keeps : ∀ reading, (outcome.left readings).taking reading = none → ∀ later,
    ((outcome.left readings).read reading).2.findings later =
      (outcome.left readings).findings later
  /-- Looking shows what taking would give. -/
  looks : ∀ task kind, (outcome.left readings).result? task kind =
    ((outcome.left readings).takeResult task kind).1

/-- The outcome of a batch is not damaged by any readings. -/
theorem endures
    (answered : (start.after before).Answered (.exec scope) (.executed (some outcome)) history)
    (readings : List Reading) : start.Endures before history scope outcome readings := by
  have errors := outcome.errors_left readings
  have takes : ∀ task kind value,
      ((outcome.left readings).takeResult task kind).1 = some value ↔
        start.Yields before history scope outcome task value ∧ value.kind = kind ∧
          task ∉ outcome.taken readings := fun task kind value => by
    rw [Outcome.fst_takeResult, Outcome.result?_eq_some_iff, Outcome.get?_left,
      ← get?_eq_some_iff_yields opened answered]
    by_cases gone : task ∈ outcome.taken readings <;> simp [gone]
  exact {
    errors := errors
    counts := Outcome.countsAlike_of_errors errors
    takes := takes
    removes := fun task kind took other otherKind => by
      rw [Outcome.result?, Outcome.get?_takeResult]
      by_cases same : other = task
      · rw [if_pos ⟨same, took⟩, if_pos same, Option.bind_none]
      · rw [if_neg fun both => same both.1, if_neg same]
        rfl
    misses := fun task kind missing => by
      refine Option.eq_none_iff_forall_ne_some.mpr fun value took => ?_
      obtain ⟨yields, same, present⟩ := (takes task kind value).mp took
      rcases missing with fails | gone | ⟨other, yieldsOther, different⟩
      · exact fails yields.succeeded
      · exact present gone
      · have found := (get?_eq_some_iff_yields opened answered).mpr yields
        rw [(get?_eq_some_iff_yields opened answered).mpr yieldsOther] at found
        cases found
        exact different same
    keeps := fun reading nothing later =>
      (Outcome.agrees_read_of_taking nothing).findings later
    looks := fun task kind => ((outcome.left readings).fst_takeResult task kind).symm }

end

/-- A batch of a number, a text and a body that fails. -/
def mixture : List (Event Unit) :=
  [.openScope .root, .push ⟨1⟩ "number" (), .push ⟨1⟩ "text" (), .push ⟨1⟩ "error" ()]

/-- All three end, the text first. -/
def endings : List (Event Unit) :=
  [.start ⟨0⟩, .start ⟨1⟩, .start ⟨2⟩, .finish ⟨1⟩ (.returned (.text "ok")),
    .finish ⟨2⟩ (.failed (.ofMessage "no")), .finish ⟨0⟩ (.returned (.int32 7))]

/-- The number is asked for as a text first and then taken out twice; the text is still there. -/
theorem endures_mixture : ∃ (start : Yard Unit) (outcome : Outcome),
    openNoted? ⟨3, false, 0, .ofSeconds 10, false⟩ = .ok start ∧
    (start.after mixture).Answered (.exec ⟨1⟩) (.executed (some outcome))
      (.begin (.exec ⟨1⟩) :: endings ++ [.poll ⟨0⟩]) ∧
    outcome.findings [.takeResult ⟨0, "number"⟩ .text, .takeResult ⟨0, "number"⟩ .int32,
      .takeResult ⟨0, "number"⟩ .int32, .result ⟨1, "text"⟩ .text, .error ⟨2, "error"⟩] =
      [.value none, .value (some (.int32 7)), .value none, .value (some (.text "ok")),
        .error (some (.failed (.ofMessage "no")))] ∧
    start.Endures mixture (.begin (.exec ⟨1⟩) :: endings ++ [.poll ⟨0⟩]) ⟨1⟩ outcome
      [.takeResult ⟨0, "number"⟩ .text, .takeResult ⟨0, "number"⟩ .int32] := by
  have run : ∃ (start : Yard Unit) (outcome : Outcome),
      openNoted? ⟨3, false, 0, .ofSeconds 10, false⟩ = .ok start ∧
      (start.after mixture).Answered (.exec ⟨1⟩) (.executed (some outcome))
        (.begin (.exec ⟨1⟩) :: endings ++ [.poll ⟨0⟩]) ∧
      outcome.findings [.takeResult ⟨0, "number"⟩ .text, .takeResult ⟨0, "number"⟩ .int32,
        .takeResult ⟨0, "number"⟩ .int32, .result ⟨1, "text"⟩ .text, .error ⟨2, "error"⟩] =
        [.value none, .value (some (.int32 7)), .value none, .value (some (.text "ok")),
          .error (some (.failed (.ofMessage "no")))] :=
    ⟨_, _, rfl, .inPoll rfl, rfl⟩
  obtain ⟨start, outcome, opened, answered, found⟩ := run
  exact ⟨start, outcome, opened, answered, found, endures opened answered _⟩

end Yard

end Taskyard

/-
This file says when an outcome is in itself right: no task has two entries, and
the tasks that have a value are those whose entry says that they did not fail.
Recording what a task came to keeps that, as long as every task is recorded
once. The counts of an outcome follow: there are as many values as tasks that
succeeded, so that the two counts never contradict each other.
-/

import Mathlib.Data.List.Nodup
import Taskyard.Outcome

namespace Taskyard

namespace Listing

variable {Key Item : Type} [DecidableEq Key]

/-- A key that is new goes to the end. -/
theorem put_of_not_mem {key : Key} {listing : Listing Key Item} (fresh : key ∉ keys listing)
    (item : Item) : put key item listing = listing ++ [(key, item)] := by
  rw [put, if_neg]
  rwa [get?_isSome_iff]

theorem mem_put {key : Key} {item : Item} {listing : Listing Key Item} {entry : Key × Item}
    (member : entry ∈ listing.put key item) : entry ∈ listing ∨ entry = (key, item) := by
  unfold put at member
  split at member
  · obtain ⟨former, listed, rfl⟩ := List.mem_map.mp member
    split
    · next same => exact .inr (by rw [same])
    · exact .inl listed
  · rcases List.mem_append.mp member with listed | new
    · exact .inl listed
    · exact .inr (List.mem_singleton.mp new)

/-- What is found is listed. -/
theorem mem_of_get? {key : Key} {item : Item} {listing : Listing Key Item}
    (found : get? key listing = some item) : (key, item) ∈ listing := by
  induction listing with
  | nil => cases found
  | cons entry rest inductionHypothesis =>
    unfold get? at found
    split at found
    · next here =>
      cases found
      exact List.mem_cons.mpr (.inl (by rw [← here]))
    · exact List.mem_cons_of_mem entry (inductionHypothesis found)

/-- Where no key is listed twice, what is listed is what is found. -/
theorem get?_eq_some_iff {key : Key} {item : Item} {listing : Listing Key Item}
    (distinct : (keys listing).Nodup) : get? key listing = some item ↔ (key, item) ∈ listing := by
  induction listing with
  | nil => simp [get?]
  | cons entry rest inductionHypothesis =>
    obtain ⟨absent, distinctRest⟩ := List.nodup_cons.mp distinct
    by_cases here : entry.1 = key
    · have alone : (key, item) ∉ rest := fun member =>
        absent (here ▸ List.mem_map_of_mem member)
      simp only [get?, here, if_true, List.mem_cons, alone, or_false, Option.some.injEq,
        Prod.ext_iff, true_and]
      exact eq_comm
    · have apart : (key, item) ≠ entry := fun equal => here (by rw [← equal])
      simp only [get?, if_neg here, List.mem_cons, apart, false_or]
      exact inductionHypothesis distinctRest

end Listing

namespace Outcome

/-- What makes an outcome right in itself. -/
structure Sound (outcome : Outcome) : Prop where
  /-- No task has two entries. -/
  distinct : outcome.tasks.Nodup
  single : outcome.results.keys.Nodup
  /-- A task has a value exactly if its entry says that it did not fail. -/
  agrees : ∀ task, (outcome.results.get? task).isSome ↔ outcome.errors.get? task = some none

theorem sound_empty : empty.Sound :=
  ⟨List.nodup_nil, List.nodup_nil, fun _ => by simp [empty, Listing.get?]⟩

/-- A batch that failed as a whole has an outcome without values. -/
theorem sound_failAll {tasks : List TaskId} (distinct : tasks.Nodup) (error : TaskError) :
    (failAll tasks error).Sound where
  distinct := by rwa [tasks_failAll]
  single := List.nodup_nil
  agrees task := by
    refine iff_of_false (by simp [failAll, Listing.get?]) fun known => ?_
    have keys : (failAll tasks error).errors.keys.Nodup := by
      rwa [show (failAll tasks error).errors.keys = tasks from tasks_failAll tasks error]
    simpa [failAll] using (Listing.get?_eq_some_iff keys).mp known

/-- A batch that failed as a whole knows one error only. -/
theorem error?_failAll {tasks : List TaskId} {task : TaskId} {error other : TaskError}
    (found : (failAll tasks error).error? task = some other) : other = error := by
  induction tasks with
  | nil => cases found
  | cons first rest inductionHypothesis =>
    simp only [error?, failAll, List.map_cons, Listing.get?] at found inductionHypothesis
    split at found
    · exact (Option.some.inj found).symm
    · exact inductionHypothesis found

/-- No task of a batch that failed as a whole is among those that succeeded. -/
theorem get?_failAll_ne (tasks : List TaskId) (error : TaskError) (task : TaskId) :
    (failAll tasks error).errors.get? task ≠ some none := by
  induction tasks with
  | nil => exact Option.some_ne_none none |>.symm
  | cons first rest inductionHypothesis =>
    simp only [failAll, List.map_cons, Listing.get?] at inductionHypothesis ⊢
    split
    · simp
    · exact inductionHypothesis

/-! ### Recording -/

theorem tasks_record {outcome : Outcome} {task : TaskId} (fresh : task ∉ outcome.tasks)
    (output : Output) : (outcome.record task output).tasks = outcome.tasks ++ [task] := by
  cases output <;>
    simp [record, tasks, Listing.put_of_not_mem fresh, Listing.keys]

/-- The entry that an output makes. -/
def entryOf : Output → Option TaskError
  | .ok _ => none
  | .error error => some error

theorem entryOf_eq_some_iff {output : Output} {error : TaskError} :
    entryOf output = some error ↔ output = .error error := by
  cases output <;> simp [entryOf]

theorem errors_record (outcome : Outcome) (task : TaskId) (output : Output) :
    (outcome.record task output).errors = outcome.errors.put task (entryOf output) := by
  cases output <;> rfl

/-- A task that is recorded for the first time leaves the outcome right. -/
theorem Sound.record {outcome : Outcome} {task : TaskId} (sound : outcome.Sound)
    (fresh : task ∉ outcome.tasks) (output : Output) : (outcome.record task output).Sound where
  distinct := by
    rw [tasks_record fresh]
    refine List.nodup_append.mpr ⟨sound.distinct, by simp, fun known member other single => ?_⟩
    rw [List.mem_singleton.mp single]
    exact fun equal => fresh (equal ▸ member)
  single := by
    cases output with
    | ok value => exact Listing.nodup_keys_put sound.single
    | error error => exact sound.single
  agrees other := by
    have unknown : outcome.errors.get? task = none := Listing.get?_eq_none_iff.mpr fresh
    rw [errors_record, Listing.get?_put]
    by_cases same : other = task
    · subst same
      have valueless : outcome.results.get? other = none := by
        rw [← Option.not_isSome_iff_eq_none, sound.agrees other, unknown]
        simp
      cases output with
      | ok value => simp [Outcome.record, Listing.get?_put, entryOf]
      | error error => simp [Outcome.record, valueless, entryOf]
    · cases output with
      | ok value => simpa [Outcome.record, Listing.get?_put, same] using sound.agrees other
      | error error => simpa [Outcome.record, same] using sound.agrees other

/-- Record several outputs, one after the other. -/
def recordAll (outcome : Outcome) (outputs : List (TaskId × Output)) : Outcome :=
  outputs.foldl (fun outcome entry => outcome.record entry.1 entry.2) outcome

theorem tasks_recordAll {outcome : Outcome} {outputs : List (TaskId × Output)}
    (distinct : (outcome.tasks ++ outputs.map Prod.fst).Nodup) :
    (outcome.recordAll outputs).tasks = outcome.tasks ++ outputs.map Prod.fst := by
  induction outputs generalizing outcome with
  | nil => simp [recordAll]
  | cons entry rest inductionHypothesis =>
    have fresh : entry.1 ∉ outcome.tasks := fun member =>
      List.disjoint_of_nodup_append distinct member (by simp)
    have tasks := tasks_record fresh entry.2
    have moved : ((outcome.record entry.1 entry.2).recordAll rest).tasks = _ :=
      inductionHypothesis (by simpa [tasks] using distinct)
    show ((outcome.record entry.1 entry.2).recordAll rest).tasks = _
    simpa [tasks] using moved

theorem Sound.recordAll {outcome : Outcome} {outputs : List (TaskId × Output)}
    (sound : outcome.Sound) (distinct : (outcome.tasks ++ outputs.map Prod.fst).Nodup) :
    (outcome.recordAll outputs).Sound := by
  induction outputs generalizing outcome with
  | nil => exact sound
  | cons entry rest inductionHypothesis =>
    have fresh : entry.1 ∉ outcome.tasks := fun member =>
      List.disjoint_of_nodup_append distinct member (by simp)
    refine inductionHypothesis (sound.record fresh entry.2) ?_
    simpa [tasks_record fresh] using distinct

/-! ### Counts -/

/-- The tasks that did not fail are those that have a value. -/
theorem Sound.length_results {outcome : Outcome} (sound : outcome.Sound) :
    outcome.results.length + outcome.failedCount = outcome.size := by
  have succeeded : (Listing.keys (outcome.errors.filter fun entry => entry.2.isNone)).Perm
      outcome.results.keys := by
    refine (List.perm_ext_iff_of_nodup ?_ sound.single).mpr fun task => ?_
    · exact sound.distinct.sublist (List.filter_sublist.map Prod.fst)
    · have valued : task ∈ outcome.results.keys ↔ _ := Listing.get?_isSome_iff.symm
      rw [valued, sound.agrees task, Listing.get?_eq_some_iff sound.distinct]
      constructor
      · intro member
        obtain ⟨entry, kept, rfl⟩ := List.mem_map.mp member
        obtain ⟨listed, none⟩ := List.mem_filter.mp kept
        rw [← Option.isNone_iff_eq_none.mp none]
        exact listed
      · intro member
        exact List.mem_map.mpr ⟨_, List.mem_filter.mpr ⟨member, rfl⟩, rfl⟩
  have length := succeeded.length_eq
  simp only [Listing.keys, List.length_map] at length
  rw [← length, failedCount, size, ← List.countP_eq_length_filter,
    List.length_eq_countP_add_countP fun entry : TaskId × Option TaskError => entry.2.isNone]
  congr 2
  funext entry
  cases entry.2 <;> rfl

/-! ### Covering a batch -/

/-- An outcome that says of each of these tasks, and of no other, what it came to. -/
structure Covers (outcome : Outcome) (batch : List TaskId) : Prop where
  distinct : outcome.tasks.Nodup
  tasks : ∀ task, task ∈ outcome.tasks ↔ task ∈ batch
  results : ∀ task, task ∈ outcome.results.keys ↔ outcome.errors.get? task = some none
  size : outcome.size = batch.length
  succeeded : outcome.succeededCount = outcome.results.length
  failed : outcome.failedCount ≤ outcome.size

theorem Sound.covers {outcome : Outcome} {batch : List TaskId} (sound : outcome.Sound)
    (tasks : outcome.tasks.Perm batch) : outcome.Covers batch where
  distinct := sound.distinct
  tasks _ := tasks.mem_iff
  results task := Listing.get?_isSome_iff.symm.trans (sound.agrees task)
  size := by
    rw [← tasks.length_eq, Outcome.tasks, Listing.keys, List.length_map, Outcome.size]
  succeeded := by
    have counts := sound.length_results
    unfold succeededCount
    omega
  failed := by
    have counts := sound.length_results
    omega

end Outcome

end Taskyard

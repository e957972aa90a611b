/-
This file follows tasks from the push to the batch. A push that succeeds numbers
a task and puts it into the backlog; running the batch of a scope takes the
tasks of that scope out again, all of them and for one call. What was taken and
what is left is therefore never more than what was pushed, and no number is
given twice.
-/

import Mathlib.Data.List.Flatten
import Taskyard.Proofs.Chronicle
import Taskyard.Proofs.Order.Bystanders

namespace Taskyard

variable {Body : Type}

namespace Backlog

/-- Every task in the backlog, with its scope. -/
def entries (backlog : Backlog Body) : List (ScopeId × Entry Body) :=
  backlog.batches.flatMap fun held => held.2.map fun entry => (held.1, entry)

/-- The tasks of one scope, and all others. -/
theorem perm_entries {backlog : Backlog Body} (distinct : backlog.batches.keys.Nodup)
    (scope : ScopeId) : backlog.entries.Perm
      ((backlog.batch scope).map (fun entry => (scope, entry)) ++
        (backlog.remove scope).entries) := by
  unfold batch
  cases found : backlog.batches.get? scope with
  | none =>
    have same : backlog.remove scope = backlog := by
      rw [remove, Listing.remove_of_not_mem (Listing.get?_eq_none_iff.mp found)]
    rw [same]
    exact List.Perm.refl _
  | some held => exact Listing.perm_flatMap distinct found

theorem perm_entries_push {backlog : Backlog Body} (distinct : backlog.batches.keys.Nodup)
    (scope : ScopeId) (entry : Entry Body) :
    (backlog.push scope entry).entries.Perm (backlog.entries ++ [(scope, entry)]) := by
  have put : (backlog.push scope entry).entries.Perm
      ((backlog.batch scope ++ [entry]).map (fun entry => (scope, entry)) ++
        (backlog.remove scope).entries) := Listing.perm_flatMap_put distinct
  rw [List.map_append, List.map_singleton, List.append_assoc, List.singleton_append] at put
  calc (backlog.push scope entry).entries
    _ |>.Perm _ := put
    _ |>.Perm ((scope, entry) :: (_ ++ (backlog.remove scope).entries)) := List.perm_middle
    _ |>.Perm ((scope, entry) :: backlog.entries) := .cons _ (perm_entries distinct scope).symm
    _ |>.Perm (backlog.entries ++ [(scope, entry)]) := (List.perm_append_singleton _ _).symm

theorem mem_entries {backlog : Backlog Body} (distinct : backlog.batches.keys.Nodup)
    {scope : ScopeId} {entry : Entry Body} (member : entry ∈ backlog.batch scope) :
    (scope, entry) ∈ backlog.entries :=
  (perm_entries distinct scope).mem_iff.mpr
    (List.mem_append_left _ (List.mem_map_of_mem member))

end Backlog

namespace Yard

variable {yard : Yard Body}

/-- The task that an event puts into the backlog, with its scope. -/
def pushing (yard : Yard Body) : Event Body → List (ScopeId × Entry Body)
  | .push scope label body =>
    match (yard.push scope label body).1 with
    | .ok task => [(scope, ⟨task, body⟩)]
    | .error _ => []
  | _ => []

/-- The tasks that an event takes out of the backlog to run them, with their scope. -/
def taking (yard : Yard Body) : Event Body → List (ScopeId × Entry Body)
  | .begin (.exec scope) => (yard.backlog.batch scope).map fun entry => (scope, entry)
  | _ => []

/-- A push fails and leaves the backlog as it was, or it numbers a task and puts it there. -/
theorem push_cases (yard : Yard Body) (scope : ScopeId) (label : String) (body : Body) :
    ((∃ error, (yard.push scope label body).1 = .error error) ∧
      yard.pushing (.push scope label body) = [] ∧
      (yard.push scope label body).2.backlog = yard.backlog ∧
      (yard.push scope label body).2.taskCount = yard.taskCount) ∨
    ((yard.push scope label body).1 = .ok ⟨yard.taskCount, label⟩ ∧
      yard.pushing (.push scope label body) = [(scope, ⟨⟨yard.taskCount, label⟩, body⟩)] ∧
      (yard.push scope label body).2.backlog =
        yard.backlog.push scope ⟨⟨yard.taskCount, label⟩, body⟩ ∧
      (yard.push scope label body).2.taskCount = yard.taskCount + 1) := by
  rw [pushing]
  cases ended : yard.ended? scope with
  | some reason =>
    rw [push_of_ended ended]
    exact .inl ⟨⟨_, rfl⟩, rfl, rfl, rfl⟩
  | none =>
    by_cases closed : yard.slots.closed = true
    · rw [push_of_closed ended closed]
      exact .inl ⟨⟨_, rfl⟩, rfl, rfl, rfl⟩
    · rw [push_of_open ended closed]
      exact .inr ⟨rfl, rfl, rfl, rfl⟩

/-- The books of the backlog, between two yards: what was pushed in between covers what was
taken. -/
structure Stocks (before later : Yard Body) (pushed taken : List (ScopeId × Entry Body)) :
    Prop where
  distinct : later.backlog.batches.keys.Nodup
  numbered : later.taskCount = before.taskCount + pushed.length
  counts : ∀ mine : ScopeId × Entry Body → Bool,
    later.backlog.entries.countP mine + taken.countP mine ≤
      before.backlog.entries.countP mine + pushed.countP mine

variable {before later : Yard Body}

theorem Stocks.of_same (distinct : before.backlog.batches.keys.Nodup)
    (backlog : later.backlog = before.backlog) (taskCount : later.taskCount = before.taskCount) :
    before.Stocks later [] [] where
  distinct := backlog ▸ distinct
  numbered := taskCount
  counts mine := by
    refine Nat.le_of_eq ?_
    rw [backlog]

theorem Stocks.trans {third : Yard Body}
    {pushed taken pushedLater takenLater : List (ScopeId × Entry Body)}
    (early : before.Stocks later pushed taken) (late : later.Stocks third pushedLater takenLater) :
    before.Stocks third (pushed ++ pushedLater) (taken ++ takenLater) where
  distinct := late.distinct
  numbered := by
    rw [late.numbered, early.numbered, List.length_append, Nat.add_assoc]
  counts mine := by
    have counted := early.counts mine
    have countedLater := late.counts mine
    simp only [List.countP_append]
    omega

theorem nodup_remove {scope : ScopeId} {backlog : Backlog Body}
    (distinct : backlog.batches.keys.Nodup) : (backlog.remove scope).batches.keys.Nodup := by
  rw [Backlog.remove, Listing.keys_remove]
  exact distinct.filter _

theorem Stocks.removed {scope : ScopeId} (distinct : before.backlog.batches.keys.Nodup)
    (backlog : later.backlog = before.backlog.remove scope)
    (taskCount : later.taskCount = before.taskCount) :
    before.Stocks later [] ((before.backlog.batch scope).map fun entry => (scope, entry)) where
  distinct := by
    rw [backlog]
    exact nodup_remove distinct
  numbered := taskCount
  counts mine := by
    rw [backlog, (Backlog.perm_entries distinct scope).countP_eq, List.countP_append,
      List.countP_nil]
    omega

theorem Stocks.untaken {pushed taken : List (ScopeId × Entry Body)}
    (stocks : before.Stocks later pushed taken) : before.Stocks later pushed [] :=
  { stocks with counts := fun mine => Nat.le_trans (Nat.le_add_right _ _) (stocks.counts mine) }

theorem Kept.stocks_begin (kept : yard.Kept) (distinct : yard.backlog.batches.keys.Nodup)
    (request : Request Body) :
    yard.Stocks (yard.begin request).2.2 [] (yard.taking (.begin request)) := by
  have same := kept.surroundings_begin request
  have backlog := congrArg Surroundings.backlog same
  have taskCount := congrArg Surroundings.taskCount same
  cases request with
  | exec scope => exact .removed distinct backlog taskCount
  | submit body => exact .of_same distinct backlog taskCount
  | submitTask scope body => exact .of_same distinct backlog taskCount
  | drain timeout => exact .of_same distinct backlog taskCount
  | watch scope => exact .of_same distinct backlog taskCount

theorem stocks_push (distinct : yard.backlog.batches.keys.Nodup) (scope : ScopeId) (label : String)
    (body : Body) : yard.Stocks (yard.push scope label body).2
      (yard.pushing (.push scope label body)) [] := by
  rcases yard.push_cases scope label body with
    ⟨-, nothing, backlog, taskCount⟩ | ⟨-, task, backlog, taskCount⟩
  · rw [nothing]
    exact .of_same distinct backlog taskCount
  · rw [task]
    exact {
      distinct := backlog ▸ Listing.nodup_keys_put distinct
      numbered := taskCount
      counts := fun mine => by
        rw [backlog, (Backlog.perm_entries_push distinct _ _).countP_eq, List.countP_append]
        exact Nat.le_refl _ }

/-- What an event does to the books of the backlog. -/
theorem Kept.stocks_step (kept : yard.Kept) (distinct : yard.backlog.batches.keys.Nodup)
    (event : Event Body) :
    yard.Stocks (yard.step event) (yard.pushing event) (yard.taking event) := by
  cases event with
  | push scope label body => exact stocks_push distinct scope label body
  | discard scope =>
    have removed : yard.Stocks (yard.step (.discard scope)) []
        ((yard.backlog.batch scope).map fun entry => (scope, entry)) := .removed distinct rfl rfl
    exact removed.untaken
  | release => exact ⟨List.nodup_nil, rfl, fun mine => Nat.zero_le _⟩
  | begin request =>
    have stocks := kept.stocks_begin distinct request
    cases request <;> exact stocks
  | tick moment =>
    obtain ⟨now, -, moved⟩ := advanceTo_eq yard moment
    rw [Yard.step, moved]
    exact .of_same distinct rfl rfl
  | poll call =>
    have same := kept.surroundings_poll call
    exact .of_same distinct (congrArg Surroundings.backlog same)
      (congrArg Surroundings.taskCount same)
  | finish job ending =>
    have same := (kept.inOrder.finishJob job ending).surroundings
    exact .of_same distinct (congrArg Surroundings.backlog same)
      (congrArg Surroundings.taskCount same)
  | abandon job =>
    have same := (kept.inOrder.abandonJob job).surroundings
    exact .of_same distinct (congrArg Surroundings.backlog same)
      (congrArg Surroundings.taskCount same)
  | openScope | cancel | query | setTimeout | drop | start => exact .of_same distinct rfl rfl

/-- What a history does to them. -/
theorem Kept.stocks_after (kept : yard.Kept) (distinct : yard.backlog.batches.keys.Nodup)
    (history : List (Event Body)) : yard.Stocks (yard.after history)
      (yard.chronicle pushing history) (yard.chronicle taking history) := by
  induction history generalizing yard with
  | nil => exact .of_same distinct rfl rfl
  | cons event rest inductionHypothesis =>
    have stocks := kept.stocks_step distinct event
    exact stocks.trans (inductionHypothesis (kept.step event) stocks.distinct)

/-! ### Numbers -/

theorem serial_of_pushing {event : Event Body} {item : ScopeId × Entry Body}
    (member : item ∈ yard.pushing event) : item.2.task.serial = yard.taskCount := by
  cases event with
  | push scope label body =>
    rcases yard.push_cases scope label body with ⟨-, nothing, -⟩ | ⟨-, task, -⟩
    · rw [nothing] at member
      cases member
    · rw [task] at member
      rw [List.mem_singleton.mp member]
  | _ => cases member

theorem length_pushing_le (yard : Yard Body) (event : Event Body) :
    (yard.pushing event).length ≤ 1 := by
  cases event with
  | push scope label body =>
    rcases yard.push_cases scope label body with ⟨-, nothing, -⟩ | ⟨-, task, -⟩
    · rw [nothing]
      exact Nat.zero_le _
    · rw [task]
      exact Nat.le_refl _
  | _ => exact Nat.zero_le _

/-- The tasks of a history are numbered in the order of the pushes, from the count of the tasks
on. -/
theorem Kept.serials (kept : yard.Kept) (distinct : yard.backlog.batches.keys.Nodup)
    (history : List (Event Body)) :
    ((yard.chronicle pushing history).map fun item => item.2.task.serial) =
      List.range' yard.taskCount (yard.chronicle pushing history).length := by
  induction history generalizing yard with
  | nil => rfl
  | cons event rest inductionHypothesis =>
    have stocks := kept.stocks_step distinct event
    rw [chronicle, List.map_append, inductionHypothesis (kept.step event) stocks.distinct,
      stocks.numbered, List.length_append, ← List.range'_append_1]
    congr 1
    rcases pushed : yard.pushing event with _ | ⟨item, more⟩
    · rfl
    · have single := yard.length_pushing_le event
      rw [pushed, List.length_cons] at single
      have none : more = [] := List.eq_nil_of_length_eq_zero (by omega)
      subst none
      rw [List.map_singleton, serial_of_pushing (pushed ▸ List.mem_singleton_self item)]
      rfl

end Yard

end Taskyard

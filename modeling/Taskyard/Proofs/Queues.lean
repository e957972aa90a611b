/-
This file shows that a backlog is a queue for every scope. What it answers can
be told from what was done with it before: under a scope waits what was pushed
there since its batch was taken or dropped or everything was cleared away, in
the order of the pushes. Nothing that is done under one scope shows under
another, and a scope that is opened, derived from another or not, has a queue of
its own.

The backlog of a yard is used in no other way, so all of this holds of it too.
-/

import Mathlib.Algebra.BigOperators.Group.Finset.Basic
import Mathlib.Data.List.DropRight
import Taskyard.Proofs.Descent
import Taskyard.Proofs.Pushes

namespace Taskyard

variable {Body : Type}

/-- Something that is done with a backlog. -/
inductive Use (Body : Type) where
  | push (scope : ScopeId) (entry : Entry Body)
  | take (scope : ScopeId)
  | discard (scope : ScopeId)
  | pending (scope : ScopeId)
  | count
  | clear

/-- What is got for it. -/
inductive Yield (Body : Type) where
  | task (task : TaskId)
  | batch (entries : Option (List (Entry Body)))
  | number (number : Nat)

namespace Use

/-- The scope under which something is done. -/
def scope? : Use Body → Option ScopeId
  | .push scope _ | .take scope | .discard scope | .pending scope => some scope
  | .count | .clear => none

/-- Whether the batch of a scope is gone afterwards. -/
def removes (scope : ScopeId) : Use Body → Bool
  | .take other | .discard other => other = scope
  | .clear => true
  | .push _ _ | .pending _ | .count => false

/-- The task that is pushed under a scope. -/
def entry? (scope : ScopeId) : Use Body → Option (Entry Body)
  | .push other entry => if other = scope then some entry else none
  | .take _ | .discard _ | .pending _ | .count | .clear => none

/-- Nothing is removed or pushed under a scope by what is done under another. -/
theorem elsewhere {use : Use Body} {scope other : ScopeId} (under : use.scope? = some other)
    (apart : other ≠ scope) : use.removes scope = false ∧ use.entry? scope = none := by
  cases use <;> simp only [scope?, Option.some.injEq, reduceCtorEq] at under <;>
    simp [removes, entry?, under, apart]

end Use

/-- The tasks that were pushed under a scope since its batch was last removed, in the order of the
pushes. -/
def unclaimed (scope : ScopeId) (uses : List (Use Body)) : List (Entry Body) :=
  (uses.rtakeWhile fun use => !use.removes scope).filterMap (Use.entry? scope)

theorem unclaimed_concat (scope : ScopeId) (uses : List (Use Body)) (use : Use Body) :
    unclaimed scope (uses ++ [use]) =
      if use.removes scope then [] else unclaimed scope uses ++ (use.entry? scope).toList := by
  unfold unclaimed
  rw [List.rtakeWhile_concat]
  cases use.removes scope with
  | true => rfl
  | false =>
    simp only [Bool.not_false, if_true, List.filterMap_append]
    cases named : use.entry? scope <;> simp [named]

/-- It makes no difference to a scope whether something was done under another. -/
theorem unclaimed_elsewhere {scope other : ScopeId} {use : Use Body}
    (under : use.scope? = some other) (apart : other ≠ scope) (earlier later : List (Use Body)) :
    unclaimed scope (earlier ++ use :: later) = unclaimed scope (earlier ++ later) := by
  obtain ⟨stays, nothing⟩ := use.elsewhere under apart
  induction later using List.reverseRecOn with
  | nil =>
    rw [unclaimed_concat, stays, nothing, List.append_nil]
    exact List.append_nil _
  | append_singleton later last inductionHypothesis =>
    rw [← List.cons_append, ← List.append_assoc, ← List.append_assoc, unclaimed_concat,
      unclaimed_concat, inductionHypothesis]

/-! ### One use -/

namespace Backlog

/-- Do something with a backlog. -/
def perform (backlog : Backlog Body) : Use Body → Yield Body × Backlog Body
  | .push scope entry => (.task entry.task, backlog.push scope entry)
  | .take scope => ((backlog.take scope).map Yield.batch id)
  | .discard scope => ((backlog.discard scope).map Yield.number id)
  | .pending scope => (.number (backlog.pending scope), backlog)
  | .count => (.number backlog.count, backlog)
  | .clear => (backlog.clear.map Yield.number id)

/-- A backlog with which something was done. -/
def used (backlog : Backlog Body) (uses : List (Use Body)) : Backlog Body :=
  uses.foldl (fun before use => (before.perform use).2) backlog

theorem used_append (backlog : Backlog Body) (first second : List (Use Body)) :
    backlog.used (first ++ second) = (backlog.used first).used second :=
  List.foldl_append

theorem used_concat (backlog : Backlog Body) (uses : List (Use Body)) (use : Use Body) :
    backlog.used (uses ++ [use]) = ((backlog.used uses).perform use).2 :=
  backlog.used_append uses [use]

variable {backlog : Backlog Body}

theorem batch_perform (backlog : Backlog Body) (scope : ScopeId) (use : Use Body) :
    (backlog.perform use).2.batch scope =
      if use.removes scope then [] else backlog.batch scope ++ (use.entry? scope).toList := by
  cases use with
  | push other entry =>
    rw [perform, batch_push]
    by_cases same : scope = other
    · subst same
      simp [Use.removes, Use.entry?]
    · have apart : other ≠ scope := fun equal => same equal.symm
      simp [Use.removes, Use.entry?, same, apart]
  | take other | discard other =>
    by_cases same : scope = other
    · subst same
      simp [perform, take, discard, batch_remove, Use.removes]
    · have apart : other ≠ scope := fun equal => same equal.symm
      simp [perform, take, discard, batch_remove, Use.removes, Use.entry?, same, apart]
  | pending | count => simp [perform, Use.removes, Use.entry?]
  | clear => rfl

/-- Every scope is listed once, and only if something waits under it. -/
structure Trim (backlog : Backlog Body) : Prop where
  distinct : backlog.batches.keys.Nodup
  stocked : ∀ held ∈ backlog.batches, held.2 ≠ []

theorem Trim.remove (trim : backlog.Trim) (scope : ScopeId) : (backlog.remove scope).Trim where
  distinct := Yard.nodup_remove trim.distinct
  stocked held member := trim.stocked held (List.mem_of_mem_filter member)

theorem Trim.push (trim : backlog.Trim) (scope : ScopeId) (entry : Entry Body) :
    (backlog.push scope entry).Trim where
  distinct := Listing.nodup_keys_put trim.distinct
  stocked held member := by
    simp only [Backlog.push, Listing.put] at member
    split at member
    · obtain ⟨former, listed, rfl⟩ := List.mem_map.mp member
      split
      · exact List.append_ne_nil_of_right_ne_nil _ (List.cons_ne_nil _ _)
      · exact trim.stocked former listed
    · rcases List.mem_append.mp member with listed | single
      · exact trim.stocked held listed
      · rw [List.mem_singleton.mp single]
        exact List.append_ne_nil_of_right_ne_nil _ (List.cons_ne_nil _ _)

theorem Trim.perform (trim : backlog.Trim) (use : Use Body) : (backlog.perform use).2.Trim := by
  cases use with
  | push scope entry => exact trim.push scope entry
  | take scope | discard scope => exact trim.remove scope
  | pending | count => exact trim
  | clear => exact ⟨List.nodup_nil, List.forall_mem_nil _⟩

theorem Trim.get? (trim : backlog.Trim) (scope : ScopeId) : backlog.batches.get? scope =
    if backlog.batch scope = [] then none else some (backlog.batch scope) := by
  unfold batch
  cases found : backlog.batches.get? scope with
  | none => rfl
  | some entries =>
    have listed := (Listing.get?_eq_some_iff trim.distinct).mp found
    rw [Option.getD_some, if_neg (trim.stocked _ listed)]

theorem Trim.batch_of_mem (trim : backlog.Trim) {held : ScopeId × List (Entry Body)}
    (listed : held ∈ backlog.batches) : backlog.batch held.1 = held.2 := by
  rw [batch, (Listing.get?_eq_some_iff trim.distinct).mpr listed, Option.getD_some]

theorem Trim.mem_keys (trim : backlog.Trim) {scope : ScopeId} :
    scope ∈ backlog.batches.keys ↔ backlog.batch scope ≠ [] := by
  rw [← Listing.get?_isSome_iff, trim.get?]
  split <;> simp_all

/-- The scopes that are listed, among any that leave none of them out. -/
theorem Trim.toFinset_keys (trim : backlog.Trim) {scopes : Finset ScopeId}
    (complete : ∀ scope, backlog.batch scope ≠ [] → scope ∈ scopes) :
    backlog.batches.keys.toFinset = scopes.filter fun scope => backlog.batch scope ≠ [] := by
  ext scope
  rw [List.mem_toFinset, trim.mem_keys, Finset.mem_filter]
  exact ⟨fun stocked => ⟨complete scope stocked, stocked⟩, And.right⟩

theorem Trim.count (trim : backlog.Trim) {scopes : Finset ScopeId}
    (complete : ∀ scope, backlog.batch scope ≠ [] → scope ∈ scopes) :
    backlog.count = (scopes.filter fun scope => backlog.batch scope ≠ []).card := by
  rw [← trim.toFinset_keys complete, List.toFinset_card_of_nodup trim.distinct]
  exact (List.length_map _).symm

theorem Trim.clear (trim : backlog.Trim) {scopes : Finset ScopeId}
    (complete : ∀ scope, backlog.batch scope ≠ [] → scope ∈ scopes) :
    backlog.clear.1 = ∑ scope ∈ scopes, (backlog.batch scope).length := by
  have others : ∀ scope ∈ scopes, scope ∉ scopes.filter (fun scope => backlog.batch scope ≠ []) →
      (backlog.batch scope).length = 0 := by
    intro scope member unlisted
    by_contra stocked
    exact unlisted (Finset.mem_filter.mpr ⟨member, fun empty => stocked (by rw [empty]; rfl)⟩)
  rw [← Finset.sum_subset (Finset.filter_subset _ _) others, ← trim.toFinset_keys complete,
    List.sum_toFinset _ trim.distinct, Backlog.clear, List.length_flatMap, Listing.keys,
    List.map_map]
  refine congrArg List.sum (List.map_congr_left fun held listed => ?_)
  exact congrArg List.length (trim.batch_of_mem listed).symm

/-! ### Many uses -/

theorem trim_used (uses : List (Use Body)) : (empty.used uses).Trim := by
  induction uses using List.reverseRecOn with
  | nil => exact ⟨List.nodup_nil, List.forall_mem_nil _⟩
  | append_singleton earlier use inductionHypothesis =>
    rw [used_concat]
    exact inductionHypothesis.perform use

/-- What waits under a scope is what was pushed there and not removed since. -/
theorem batch_used (uses : List (Use Body)) (scope : ScopeId) :
    (empty.used uses).batch scope = unclaimed scope uses := by
  induction uses using List.reverseRecOn with
  | nil => rfl
  | append_singleton earlier use inductionHypothesis =>
    rw [used_concat, batch_perform, inductionHypothesis, unclaimed_concat]

/-- What is got under a scope can be told from what waits there. -/
theorem perform_of_unclaimed {first second : List (Use Body)} {scope : ScopeId} {asked : Use Body}
    (under : asked.scope? = some scope) (same : unclaimed scope first = unclaimed scope second) :
    ((empty.used first).perform asked).1 = ((empty.used second).perform asked).1 := by
  have waiting : (empty.used first).batch scope = (empty.used second).batch scope := by
    rw [batch_used, batch_used, same]
  have found : (empty.used first).batches.get? scope = (empty.used second).batches.get? scope := by
    rw [(trim_used first).get?, (trim_used second).get?, waiting]
  cases asked <;> cases under
  · rfl
  · exact congrArg Yield.batch found
  · exact congrArg (fun entries => Yield.number entries.length) waiting
  · exact congrArg (fun entries => Yield.number entries.length) waiting

/-- What a backlog answers, in terms of what was done with it since it was empty. -/
structure KeepsQueues (uses : List (Use Body)) : Prop where
  /-- Whoever takes the batch of a scope gets what waits there in the order of the pushes, or
  nothing if nothing waits. -/
  take : ∀ scope, ((empty.used uses).perform (.take scope)).1 =
    .batch (if unclaimed scope uses = [] then none else some (unclaimed scope uses))
  pending : ∀ scope, ((empty.used uses).perform (.pending scope)).1 =
    .number (unclaimed scope uses).length
  discard : ∀ scope, ((empty.used uses).perform (.discard scope)).1 =
    .number (unclaimed scope uses).length
  /-- A batch that was taken or dropped is not kept, and neither is an empty one. -/
  removed : ∀ scope, (empty.used (uses ++ [.take scope])).batches.get? scope = none ∧
    (empty.used (uses ++ [.discard scope])).batches.get? scope = none
  stocked : ∀ held ∈ (empty.used uses).batches, held.2 ≠ []
  /-- Every scope counts once if something waits under it, and does not count otherwise. -/
  count : ∀ scopes : Finset ScopeId, (∀ scope, unclaimed scope uses ≠ [] → scope ∈ scopes) →
    ((empty.used uses).perform .count).1 =
      .number (scopes.filter fun scope => unclaimed scope uses ≠ []).card
  /-- Clearing everything away removes what waits under all scopes together. -/
  clear : ∀ scopes : Finset ScopeId, (∀ scope, unclaimed scope uses ≠ [] → scope ∈ scopes) →
    ((empty.used uses).perform .clear).1 =
      .number (∑ scope ∈ scopes, (unclaimed scope uses).length)
  cleared : (empty.used (uses ++ [.clear])).batches = []
  /-- Something waits under finitely many scopes only. -/
  finite : ∃ scopes : Finset ScopeId, ∀ scope, unclaimed scope uses ≠ [] → scope ∈ scopes
  /-- Whatever was done under one scope, what is got under another is as if it had not been done. -/
  isolated : ∀ earlier use later asked scope other, uses = earlier ++ use :: later →
    use.scope? = some other → asked.scope? = some scope → other ≠ scope →
    ((empty.used uses).perform asked).1 = ((empty.used (earlier ++ later)).perform asked).1
  /-- Asking for a number changes nothing. -/
  unchanged : ∀ scope, ((empty.used uses).perform (.pending scope)).2 = empty.used uses ∧
    ((empty.used uses).perform .count).2 = empty.used uses
  /-- No two scopes that were ever opened share a queue, whichever was derived from the other. -/
  apart : ∀ (yard : Yard Body) (descent : Yard.Descent) (scope : ScopeId),
    yard.scopes.Knows scope → (yard.openScope descent).1 ≠ scope

theorem keepsQueues (uses : List (Use Body)) : KeepsQueues uses := by
  have trim := trim_used uses
  have waiting := batch_used uses
  exact {
    take := fun scope => by
      rw [← waiting, ← trim.get?]
      rfl
    pending := fun scope => by
      rw [← waiting]
      rfl
    discard := fun scope => by
      rw [← waiting]
      rfl
    removed := fun scope => by
      simp only [used_concat, perform, Backlog.take, Backlog.discard, Prod.map, id_eq,
        Backlog.remove, Listing.get?_remove, if_true, and_self]
    stocked := trim.stocked
    count := fun scopes complete => by
      simp only [← waiting] at complete ⊢
      exact congrArg Yield.number (trim.count complete)
    clear := fun scopes complete => by
      simp only [← waiting] at complete ⊢
      exact congrArg Yield.number (trim.clear complete)
    cleared := by
      rw [used_concat]
      rfl
    finite := ⟨(empty.used uses).batches.keys.toFinset, fun scope stocked =>
      List.mem_toFinset.mpr (trim.mem_keys.mpr (waiting scope ▸ stocked))⟩
    isolated := fun earlier use later asked scope other split under about apart =>
      perform_of_unclaimed about (split ▸ unclaimed_elsewhere under apart earlier later)
    unchanged := fun scope => ⟨rfl, rfl⟩
    apart := fun yard descent scope known same => by
      obtain ⟨deadline, opened, -⟩ := yard.openScope_eq descent
      rw [opened] at same
      subst same
      exact Nat.not_succ_le_self _ known }

end Backlog

/-! ### The backlog of a yard -/

namespace Yard

variable {yard : Yard Body}

/-- What an event does with the backlog. -/
def handling (yard : Yard Body) : Event Body → List (Use Body)
  | .push scope label body =>
    (yard.pushing (.push scope label body)).map fun pushed => .push pushed.1 pushed.2
  | .begin (.exec scope) => [.take scope]
  | .discard scope => [.discard scope]
  | .release => [.clear]
  | _ => []

theorem Kept.backlog_step_eq (kept : yard.Kept) (event : Event Body) :
    (yard.step event).backlog = yard.backlog.used (yard.handling event) := by
  cases event with
  | push scope label body =>
    rw [Yard.step, handling]
    rcases yard.push_cases scope label body with
      ⟨-, nothing, backlog, -⟩ | ⟨-, task, backlog, -⟩
    · rw [nothing, backlog]
      rfl
    · rw [task, backlog]
      rfl
  | begin request =>
    have backlog := congrArg Surroundings.backlog (kept.surroundings_begin request)
    cases request <;> exact backlog
  | tick moment =>
    obtain ⟨now, -, moved⟩ := advanceTo_eq yard moment
    rw [Yard.step, moved]
    rfl
  | poll call => exact congrArg Surroundings.backlog (kept.surroundings_poll call)
  | finish job ending =>
    exact congrArg Surroundings.backlog (kept.inOrder.finishJob job ending).surroundings
  | abandon job => exact congrArg Surroundings.backlog (kept.inOrder.abandonJob job).surroundings
  | openScope | cancel | query | discard | setTimeout | release | drop | start => rfl

/-- The backlog of a yard is what was made of it by the pushes, the batches that were run or
dropped, and the releases. -/
theorem backlog_of_history {options : Options} {start : Yard Body}
    (opened : openNoted? options = .ok start) (history : List (Event Body)) :
    (start.after history).backlog = Backlog.empty.used (start.chronicle handling history) := by
  have kept := (kept_openNoted? opened).1
  obtain ⟨slots, -, rfl⟩ := openNoted?_eq opened
  induction history using List.reverseRecOn with
  | nil => rfl
  | append_singleton earlier event inductionHypothesis =>
    rw [after_concat, (kept.after earlier).backlog_step_eq, inductionHypothesis, chronicle_concat,
      Backlog.used_append]

/-- The batch of a scope is never empty. -/
theorem ne_nil_of_stored {options : Options} {start : Yard Body} {scope : ScopeId}
    {entries : List (Entry Body)} (opened : openNoted? options = .ok start)
    (history : List (Event Body))
    (stored : (start.after history).backlog.batches.get? scope = some entries) : entries ≠ [] := by
  rw [backlog_of_history opened] at stored
  have trim := Backlog.trim_used (start.chronicle handling history)
  exact trim.stocked _ ((Listing.get?_eq_some_iff trim.distinct).mp stored)

end Yard

end Taskyard

/-
This file says what asking about a scope and cancelling one do to the scopes.
The reason of an end is written once; nobody who asks later hears of another.
What is written is never made up: a scope with a reason is overdue or was
cancelled, itself or on its way to the root.
-/

import Taskyard.Scope

namespace Taskyard

namespace Scopes

/-- The reason of an end that is written down. -/
def written? (scopes : Scopes) (scope : ScopeId) : Option EndReason :=
  (scopes.record? scope).bind ScopeRecord.reason

/-- Whether there is a scope with this number. -/
def Knows (scopes : Scopes) (scope : ScopeId) : Prop := scope.number ≤ scopes.records.length

theorem ended?_of_written {scopes : Scopes} {scope : ScopeId} {reason : EndReason}
    (written : scopes.written? scope = some reason) (now : Duration) :
    scopes.ended? now scope = some reason := by
  rw [written?] at written
  simp [ended?, written]

/-! ### A record that changes -/

theorem cancelledIn_modify {scope : ScopeId} {change : ScopeRecord → ScopeRecord}
    (parent : ∀ record, (change record).parent = record.parent)
    (cancelled : ∀ record, (change record).cancelled = record.cancelled) (other : ScopeId)
    (records : List ScopeRecord) :
    cancelledIn other (modify scope change records) = cancelledIn other records := by
  induction records generalizing other with
  | nil => rfl
  | cons record older inductionHypothesis =>
    by_cases here : scope.number = older.length + 1
    · simp only [modify, if_pos here, cancelledIn, parent, cancelled]
    · simp only [modify, if_neg here, cancelledIn, length_modify]
      split
      · congr 1
        split
        · exact inductionHypothesis _
        · rfl
      · exact inductionHypothesis other

/-- Cancelling one scope makes no other any less cancelled. -/
theorem cancelledIn_cancel {scope other : ScopeId} {records : List ScopeRecord}
    (cancelled : cancelledIn other records = true) :
    cancelledIn other (modify scope (fun record => { record with cancelled := true }) records) =
      true := by
  induction records generalizing other with
  | nil => exact cancelled
  | cons record older inductionHypothesis =>
    by_cases here : scope.number = older.length + 1
    · simp only [modify, if_pos here, cancelledIn] at cancelled ⊢
      split
      · rfl
      · next apart =>
        rwa [if_neg apart] at cancelled
    · simp only [modify, if_neg here, cancelledIn, length_modify] at cancelled ⊢
      by_cases same : other.number = older.length + 1
      · simp only [if_pos same, Bool.or_eq_true] at cancelled ⊢
        refine cancelled.imp_right fun above => ?_
        cases parent : record.parent with
        | none => simp [parent] at above
        | some parent => exact inductionHypothesis (by simpa [parent] using above)
      · rw [if_neg same] at cancelled ⊢
        exact inductionHypothesis cancelled

/-- A scope that there is is cancelled afterwards. -/
theorem cancelledIn_cancel_self {scope : ScopeId} {records : List ScopeRecord}
    (found : (find? scope records).isSome) :
    cancelledIn scope (modify scope (fun record => { record with cancelled := true }) records) =
      true := by
  induction records with
  | nil => simp [find?] at found
  | cons record older inductionHypothesis =>
    by_cases here : scope.number = older.length + 1
    · simp [modify, here, cancelledIn]
    · rw [find?, if_neg here] at found
      simpa only [modify, if_neg here, cancelledIn, length_modify] using inductionHypothesis found

/-- A scope that was cancelled is one that there is. -/
theorem find?_of_cancelledIn {scope : ScopeId} {records : List ScopeRecord}
    (cancelled : cancelledIn scope records = true) : (find? scope records).isSome := by
  induction records with
  | nil => simp [cancelledIn] at cancelled
  | cons record older inductionHypothesis =>
    unfold find?
    split
    · rfl
    · next apart =>
      rw [cancelledIn, if_neg apart] at cancelled
      exact inductionHypothesis cancelled

theorem knows_of_find? {scope : ScopeId} {records : List ScopeRecord}
    (found : (find? scope records).isSome) : scope.number ≤ records.length := by
  induction records with
  | nil => simp [find?] at found
  | cons record older inductionHypothesis =>
    by_cases here : scope.number = older.length + 1
    · exact Nat.le_of_eq here
    · rw [find?, if_neg here] at found
      exact Nat.le_succ_of_le (inductionHypothesis found)

/-- A scope of which a reason is written down is one that there is. -/
theorem record?_of_written {scopes : Scopes} {scope : ScopeId} {reason : EndReason}
    (written : scopes.written? scope = some reason) : (scopes.record? scope).isSome := by
  cases found : scopes.record? scope with
  | some record => rfl
  | none => simp [written?, found] at written

/-- A scope that has ended is one that there is. -/
theorem record?_of_ended {scopes : Scopes} {now : Duration} {scope : ScopeId} {reason : EndReason}
    (ended : scopes.ended? now scope = some reason) : (scopes.record? scope).isSome := by
  cases known : scopes.record? scope with
  | some record => rfl
  | none =>
    have uncancelled : scopes.isCancelled scope = false :=
      Bool.eq_false_iff.mpr fun cancelled => by
        have found := find?_of_cancelledIn cancelled
        rw [record?] at known
        simp [known] at found
    simp [ended?, known, isOverdue, deadline?, uncancelled] at ended

/-! ### Asking -/

theorem record?_settle (scopes : Scopes) (scope other : ScopeId) (reason : EndReason) :
    (scopes.settle scope reason).record? other =
      if other = scope then (scopes.record? other).map fun record =>
        { record with reason := record.reason.or (some reason) }
      else scopes.record? other :=
  find?_modify scope other _ scopes.records

theorem written?_settle (scopes : Scopes) (scope other : ScopeId) (reason : EndReason) :
    (scopes.settle scope reason).written? other =
      if other = scope then
        if (scopes.record? other).isSome then (scopes.written? other).or (some reason) else none
      else scopes.written? other := by
  simp only [written?, record?_settle]
  split
  · cases scopes.record? other <;> rfl
  · rfl

theorem deadline?_settle (scopes : Scopes) (scope other : ScopeId) (reason : EndReason) :
    (scopes.settle scope reason).deadline? other = scopes.deadline? other := by
  simp only [deadline?, record?_settle]
  split
  · cases scopes.record? other <;> rfl
  · rfl

theorem isCancelled_settle (scopes : Scopes) (scope other : ScopeId) (reason : EndReason) :
    (scopes.settle scope reason).isCancelled other = scopes.isCancelled other := by
  refine cancelledIn_modify ?_ ?_ other scopes.records <;> exact fun _ => rfl

theorem isOverdue_settle (scopes : Scopes) (scope other : ScopeId) (reason : EndReason)
    (now : Duration) :
    (scopes.settle scope reason).isOverdue now other = scopes.isOverdue now other := by
  simp only [isOverdue, deadline?_settle]

/-- Scopes after questions that were asked at one moment. -/
inductive Asked (now : Duration) (before : Scopes) : Scopes → Prop
  | nothing : Asked now before before
  | settled {after : Scopes} {scope : ScopeId} {reason : EndReason}
      (asked : Asked now before after) (ended : after.ended? now scope = some reason) :
      Asked now before (after.settle scope reason)

theorem Asked.query {now : Duration} {before after : Scopes} (asked : Asked now before after)
    (scope : ScopeId) : Asked now before (after.query now scope).2 := by
  cases ended : after.ended? now scope with
  | none => rwa [query_of_none ended]
  | some reason =>
    rw [query_of_some ended]
    exact .settled asked ended

/-! ### What is written stays -/

theorem written?_cancel (scopes : Scopes) (now : Duration) (scope other : ScopeId) :
    (scopes.cancel now scope).written? other =
      (scopes.settle scope
        (if scopes.isOverdue now scope then .deadlineExceeded else .cancelled)).written? other := by
  simp only [written?, cancel, record?, find?_modify]
  split
  · cases find? other _ <;> rfl
  · rfl

/-- A scope that is added has no reason to end yet, and no other hears of it. -/
theorem written?_add (scopes : Scopes) (parent : Option ScopeId) (deadline : Option Duration)
    (scope : ScopeId) : (scopes.add parent deadline).2.written? scope =
      if scope.number = scopes.records.length + 1 then none else scopes.written? scope := by
  simp only [written?, record?, add, find?]
  split <;> rfl

theorem deadline?_cancel (scopes : Scopes) (now : Duration) (scope other : ScopeId) :
    (scopes.cancel now scope).deadline? other = scopes.deadline? other := by
  simp only [deadline?, cancel, settle, record?, find?_modify]
  repeat' split
  all_goals cases find? other scopes.records <;> rfl

theorem isOverdue_cancel (scopes : Scopes) (now moment : Duration) (scope other : ScopeId) :
    (scopes.cancel now scope).isOverdue moment other = scopes.isOverdue moment other := by
  simp only [isOverdue, deadline?_cancel]

theorem written?_settle_of_some {scopes : Scopes} {other : ScopeId} {reason : EndReason}
    (written : scopes.written? other = some reason) (scope : ScopeId) (later : EndReason) :
    (scopes.settle scope later).written? other = some reason := by
  rw [written?_settle, record?_of_written written, written]
  split <;> rfl

/-- The reason that is written down is the one that was found. -/
theorem written?_settle_of_ended {scopes : Scopes} {now : Duration} {scope : ScopeId}
    {reason : EndReason} (ended : scopes.ended? now scope = some reason) :
    (scopes.settle scope reason).written? scope = some reason := by
  rw [written?_settle, if_pos rfl, record?_of_ended ended]
  cases written : scopes.written? scope with
  | none => rfl
  | some former =>
    rw [ended?_of_written written] at ended
    exact ended

/-- What one event may do to the scopes. -/
inductive Evolves (now : Duration) (before : Scopes) : Scopes → Prop
  | asked {after : Scopes} (asked : Asked now before after) : Evolves now before after
  | cancelled (scope : ScopeId) : Evolves now before (before.cancel now scope)
  | added (parent : Option ScopeId) (deadline : Option Duration) :
      Evolves now before (before.add parent deadline).2

theorem Evolves.written {now : Duration} {before after : Scopes} {scope : ScopeId}
    {reason : EndReason} (evolves : Evolves now before after)
    (written : before.written? scope = some reason) : after.written? scope = some reason := by
  cases evolves with
  | asked asked =>
    induction asked with
    | nothing => exact written
    | settled asked ended inductionHypothesis =>
      exact written?_settle_of_some inductionHypothesis _ _
  | cancelled other =>
    rw [written?_cancel]
    exact written?_settle_of_some written _ _
  | added parent deadline =>
    have known := knows_of_find? (record?_of_written written)
    rw [written?_add, if_neg (by omega)]
    exact written

/-! ### What is written is true -/

theorem Evolves.knows {now : Duration} {before after : Scopes} {scope : ScopeId}
    (evolves : Evolves now before after) (known : before.Knows scope) : after.Knows scope := by
  unfold Knows at known ⊢
  cases evolves with
  | asked asked =>
    induction asked with
    | nothing => exact known
    | settled asked ended inductionHypothesis => rwa [settle, length_modify]
  | cancelled other => rwa [cancel, settle, length_modify, length_modify]
  | added parent deadline => exact Nat.le_succ_of_le known

/-- A scope that there is keeps its deadline. -/
theorem Evolves.deadline? {now : Duration} {before after : Scopes} {scope : ScopeId}
    (evolves : Evolves now before after) (known : before.Knows scope) :
    after.deadline? scope = before.deadline? scope := by
  cases evolves with
  | asked asked =>
    induction asked with
    | nothing => rfl
    | settled asked ended inductionHypothesis => rw [deadline?_settle, inductionHypothesis]
  | cancelled other => exact deadline?_cancel before now other scope
  | added parent deadline => rw [Scopes.deadline?, record?_add _ _ _ known, Scopes.deadline?]

/-- A scope that there is and that was cancelled stays so. -/
theorem Evolves.isCancelled {now : Duration} {before after : Scopes} {scope : ScopeId}
    (evolves : Evolves now before after) (known : before.Knows scope)
    (cancelled : before.isCancelled scope = true) : after.isCancelled scope = true := by
  cases evolves with
  | asked asked =>
    induction asked with
    | nothing => exact cancelled
    | settled asked ended inductionHypothesis => rwa [isCancelled_settle]
  | cancelled other =>
    refine cancelledIn_cancel ?_
    rwa [← Scopes.isCancelled, isCancelled_settle]
  | added parent deadline =>
    have apart : scope.number ≠ before.records.length + 1 := by
      unfold Knows at known
      omega
    simp only [Scopes.isCancelled, add, cancelledIn, if_neg apart]
    exact cancelled

/-- A scope that has not ended is not overdue and was not cancelled. -/
theorem going {scopes : Scopes} {now : Duration} {scope : ScopeId}
    (going : scopes.ended? now scope = none) :
    scopes.isOverdue now scope = false ∧ scopes.isCancelled scope = false := by
  unfold ended? at going
  split at going
  · cases going
  · cases overdue : scopes.isOverdue now scope <;>
      cases cancelled : scopes.isCancelled scope <;> simp_all

/-- A reason is written down only for a scope whose deadline has passed or that was cancelled. -/
def Honest (scopes : Scopes) (now : Duration) : Prop :=
  ∀ scope reason, scopes.written? scope = some reason →
    scopes.isOverdue now scope = true ∨ scopes.isCancelled scope = true

/-- Where what is written is true, a scope has ended if its deadline has passed or it was
cancelled. -/
theorem Honest.ended_iff {scopes : Scopes} {now : Duration} (honest : scopes.Honest now)
    (scope : ScopeId) : (scopes.ended? now scope).isSome ↔
      scopes.isOverdue now scope = true ∨ scopes.isCancelled scope = true := by
  unfold ended?
  cases written : (scopes.record? scope).bind ScopeRecord.reason with
  | some reason => simpa using honest scope reason written
  | none =>
    cases scopes.isOverdue now scope <;> cases scopes.isCancelled scope <;> simp

theorem isOverdue_later {scopes : Scopes} {now later : Duration} {scope : ScopeId}
    (order : now ≤ later) (overdue : scopes.isOverdue now scope = true) :
    scopes.isOverdue later scope = true := by
  unfold isOverdue at overdue ⊢
  split
  · next deadline known =>
    rw [known] at overdue
    exact decide_eq_true (Nat.le_trans (of_decide_eq_true overdue) order)
  · next missing =>
    rw [missing] at overdue
    cases overdue

theorem Honest.later {scopes : Scopes} {now later : Duration} (honest : scopes.Honest now)
    (order : now ≤ later) : scopes.Honest later :=
  fun scope reason written => (honest scope reason written).imp_left (isOverdue_later order)

theorem Honest.settle {scopes : Scopes} {now : Duration} {scope : ScopeId} {reason : EndReason}
    (honest : scopes.Honest now) (ended : scopes.ended? now scope = some reason) :
    (scopes.settle scope reason).Honest now := by
  intro other said written
  rw [isOverdue_settle, isCancelled_settle]
  by_cases same : other = scope
  · exact (honest.ended_iff other).mp (by simp [same, ended])
  · rw [written?_settle, if_neg same] at written
    exact honest other said written

theorem Honest.ask {now : Duration} {before after : Scopes} (honest : before.Honest now)
    (asked : Asked now before after) : after.Honest now := by
  induction asked with
  | nothing => exact honest
  | settled asked ended inductionHypothesis => exact inductionHypothesis.settle ended

theorem Evolves.isOverdue {now moment : Duration} {before after : Scopes} {scope : ScopeId}
    (evolves : Evolves now before after) (known : before.Knows scope) :
    after.isOverdue moment scope = before.isOverdue moment scope := by
  rw [Scopes.isOverdue, evolves.deadline? known, Scopes.isOverdue]

/-- No event writes down a reason that is not true. -/
theorem Honest.evolve {now : Duration} {before after : Scopes} (honest : before.Honest now)
    (evolves : Evolves now before after) : after.Honest now := by
  have kept : ∀ scope reason, before.written? scope = some reason →
      after.isOverdue now scope = true ∨ after.isCancelled scope = true := by
    intro scope reason written
    have known : before.Knows scope := knows_of_find? (record?_of_written written)
    rw [evolves.isOverdue known]
    exact (honest scope reason written).imp_right (evolves.isCancelled known)
  intro scope reason written
  cases evolves with
  | asked asked => exact honest.ask asked scope reason written
  | cancelled other =>
    by_cases same : scope = other
    · subst same
      rw [written?_cancel] at written
      refine .inr (cancelledIn_cancel_self ?_)
      exact record?_of_written written
    · rw [written?_cancel, written?_settle, if_neg same] at written
      exact kept scope reason written
  | added parent deadline =>
    rw [written?_add] at written
    split at written
    · cases written
    · exact kept scope reason written

/-- A scope that has ended is not brought back by an event, nor by a later moment. -/
theorem Evolves.ended {now later : Duration} {before after : Scopes} {scope : ScopeId}
    (evolves : Evolves now before after) (honest : before.Honest now) (order : now ≤ later)
    (ended : (before.ended? now scope).isSome) : (after.ended? later scope).isSome := by
  obtain ⟨reason, found⟩ := Option.isSome_iff_exists.mp ended
  have known : before.Knows scope := knows_of_find? (record?_of_ended found)
  refine (((honest.evolve evolves).later order).ended_iff scope).mpr ?_
  refine ((honest.ended_iff scope).mp ended).imp (fun overdue => ?_) (evolves.isCancelled known)
  refine isOverdue_later order ?_
  rwa [evolves.isOverdue known]

end Scopes

end Taskyard

/-
This file looks at a scope with those on its way to the root. A scope was
cancelled if one of them was. Together with the deadlines that is all that can
end a scope; what was written down of the reasons decides nothing but what
people hear. The scopes without it are called bare, and asking leaves them as
they are.
-/

import Taskyard.Proofs.Scope

namespace Taskyard

/-- A record without what was written down of the reason of the end. -/
def ScopeRecord.bare (record : ScopeRecord) : ScopeRecord := { record with reason := none }

namespace Scopes

/-! ### The way to the root -/

/-- A scope and those on its way to the root. -/
def lineageIn (scope : ScopeId) : List ScopeRecord → List ScopeId
  | [] => []
  | record :: older =>
    if scope.number = older.length + 1 then
      scope :: match record.parent with
        | some parent => lineageIn parent older
        | none => []
    else lineageIn scope older

def lineage (scopes : Scopes) (scope : ScopeId) : List ScopeId := lineageIn scope scopes.records

/-- Whether a scope itself was cancelled. -/
def isMarked (scopes : Scopes) (scope : ScopeId) : Bool :=
  (scopes.record? scope).any ScopeRecord.cancelled

theorem mem_lineageIn {scope other : ScopeId} {records : List ScopeRecord}
    (member : other ∈ lineageIn scope records) : other.number ≤ records.length := by
  induction records generalizing scope with
  | nil => cases member
  | cons record older inductionHypothesis =>
    unfold lineageIn at member
    split at member
    · next here =>
      rcases List.mem_cons.mp member with rfl | above
      · exact Nat.le_of_eq here
      · cases parent : record.parent with
        | none => simp [parent] at above
        | some parent =>
          rw [parent] at above
          exact Nat.le_succ_of_le (inductionHypothesis above)
    · exact Nat.le_succ_of_le (inductionHypothesis member)

/-- What is newer does not hide what is known of an older scope. -/
theorem find?_cons {scope : ScopeId} {older : List ScopeRecord}
    (known : scope.number ≤ older.length) (record : ScopeRecord) :
    find? scope (record :: older) = find? scope older := by
  rw [find?, if_neg (by omega)]

/-- A scope was cancelled if it was itself, or one on its way to the root. -/
theorem cancelledIn_eq_any (scope : ScopeId) (records : List ScopeRecord) :
    cancelledIn scope records =
      (lineageIn scope records).any fun other =>
        (find? other records).any ScopeRecord.cancelled := by
  induction records generalizing scope with
  | nil => rfl
  | cons record older inductionHypothesis =>
    have older_any : ∀ start : ScopeId,
        ((lineageIn start older).any fun other =>
          (find? other (record :: older)).any ScopeRecord.cancelled) =
        (lineageIn start older).any fun other =>
          (find? other older).any ScopeRecord.cancelled := fun start => by
      rw [Bool.eq_iff_iff, List.any_eq_true, List.any_eq_true]
      refine exists_congr fun other => and_congr_right fun member => ?_
      rw [find?_cons (mem_lineageIn member)]
    by_cases here : scope.number = older.length + 1
    · simp only [cancelledIn, lineageIn, if_pos here, List.any_cons]
      congr 1
      · simp [find?, here]
      · cases record.parent with
        | none => rfl
        | some parent => exact (inductionHypothesis parent).trans (older_any parent).symm
    · simp only [cancelledIn, lineageIn, if_neg here]
      exact (inductionHypothesis scope).trans (older_any scope).symm

theorem isCancelled_eq_any (scopes : Scopes) (scope : ScopeId) :
    scopes.isCancelled scope = (scopes.lineage scope).any scopes.isMarked :=
  cancelledIn_eq_any scope scopes.records

/-! ### What matters of the scopes -/

/-- The scopes without what was written down of the reasons of their ends. -/
def bare (scopes : Scopes) : Scopes := ⟨scopes.records.map ScopeRecord.bare⟩

theorem find?_map {change : ScopeRecord → ScopeRecord} (scope : ScopeId)
    (records : List ScopeRecord) :
    find? scope (records.map change) = (find? scope records).map change := by
  induction records with
  | nil => rfl
  | cons record older inductionHypothesis =>
    simp only [List.map_cons, find?, List.length_map]
    split
    · rfl
    · exact inductionHypothesis

/-- Seen through a map, one record is changed in another way. -/
theorem map_modify (read inner outer : ScopeRecord → ScopeRecord)
    (commute : ∀ record, read (inner record) = outer (read record)) (scope : ScopeId)
    (records : List ScopeRecord) :
    (modify scope inner records).map read = modify scope outer (records.map read) := by
  induction records with
  | nil => rfl
  | cons record older inductionHypothesis =>
    simp only [List.map_cons, modify, List.length_map]
    split
    · rw [List.map_cons, commute]
    · rw [List.map_cons, inductionHypothesis]

theorem modify_id (scope : ScopeId) (records : List ScopeRecord) :
    modify scope id records = records := by
  induction records with
  | nil => rfl
  | cons record older inductionHypothesis =>
    rw [modify, inductionHypothesis]
    exact ite_self _

theorem lineageIn_map (change : ScopeRecord → ScopeRecord)
    (parent : ∀ record, (change record).parent = record.parent) (scope : ScopeId)
    (records : List ScopeRecord) :
    lineageIn scope (records.map change) = lineageIn scope records := by
  induction records generalizing scope with
  | nil => rfl
  | cons record older inductionHypothesis =>
    simp only [List.map_cons, lineageIn, List.length_map, parent]
    split
    · cases record.parent with
      | none => rfl
      | some parent => exact congrArg _ (inductionHypothesis parent)
    · exact inductionHypothesis scope

theorem record?_bare (scopes : Scopes) (scope : ScopeId) :
    scopes.bare.record? scope = (scopes.record? scope).map ScopeRecord.bare :=
  find?_map scope scopes.records

theorem deadline?_bare (scopes : Scopes) (scope : ScopeId) :
    scopes.bare.deadline? scope = scopes.deadline? scope := by
  rw [deadline?, record?_bare, deadline?]
  cases scopes.record? scope <;> rfl

theorem isMarked_bare (scopes : Scopes) (scope : ScopeId) :
    scopes.bare.isMarked scope = scopes.isMarked scope := by
  rw [isMarked, record?_bare, isMarked]
  cases scopes.record? scope <;> rfl

theorem lineage_bare (scopes : Scopes) (scope : ScopeId) :
    scopes.bare.lineage scope = scopes.lineage scope :=
  lineageIn_map ScopeRecord.bare (fun _ => rfl) scope scopes.records

/-- Writing a reason down changes nothing that matters. -/
theorem bare_settle (scopes : Scopes) (scope : ScopeId) (reason : EndReason) :
    (scopes.settle scope reason).bare = scopes.bare := by
  have unseen := map_modify ScopeRecord.bare
    (fun record => { record with reason := record.reason.or (some reason) }) id (fun _ => rfl) scope
    scopes.records
  rw [bare, settle, unseen, modify_id, bare]

theorem Asked.bare {now : Duration} {before after : Scopes} (asked : Asked now before after) :
    after.bare = before.bare := by
  induction asked with
  | nothing => rfl
  | settled asked ended inductionHypothesis => rw [bare_settle, inductionHypothesis]

theorem bare_cancel (scopes : Scopes) (now : Duration) (scope : ScopeId) :
    (scopes.cancel now scope).bare =
      ⟨modify scope (fun record => { record with cancelled := true }) scopes.bare.records⟩ := by
  have seen := map_modify ScopeRecord.bare (fun record => { record with cancelled := true })
    (fun record => { record with cancelled := true }) (fun _ => rfl) scope
  rw [bare, cancel, seen]
  exact congrArg (fun scopes : Scopes => Scopes.mk (modify scope _ scopes.records))
    (scopes.bare_settle scope _)

theorem bare_add (scopes : Scopes) (parent : Option ScopeId) (deadline : Option Duration) :
    (scopes.add parent deadline).2.bare = (scopes.bare.add parent deadline).2 := rfl

/-! ### What a change does to the way to the root -/

theorem isMarked_cancel (scopes : Scopes) (now : Duration) (scope other : ScopeId) :
    (scopes.cancel now scope).isMarked other = true ↔
      scopes.isMarked other = true ∨ other = scope ∧ (scopes.record? other).isSome := by
  rw [← isMarked_bare, bare_cancel, isMarked, record?, find?_modify, ← record?, record?_bare,
    isMarked]
  by_cases same : other = scope <;> cases scopes.record? other <;>
    simp [same, ScopeRecord.bare]

theorem isMarked_add (scopes : Scopes) (parent : Option ScopeId) (deadline : Option Duration)
    (scope : ScopeId) : (scopes.add parent deadline).2.isMarked scope = scopes.isMarked scope := by
  simp only [isMarked, record?, add, find?]
  split
  · next new =>
    have unknown : find? scope scopes.records = none :=
      Option.not_isSome_iff_eq_none.mp fun known => by
        have older := knows_of_find? known
        omega
    simp [unknown]
  · rfl

theorem lineageIn_modify (scope other : ScopeId) (change : ScopeRecord → ScopeRecord)
    (parent : ∀ record, (change record).parent = record.parent) (records : List ScopeRecord) :
    lineageIn other (modify scope change records) = lineageIn other records := by
  induction records generalizing other with
  | nil => rfl
  | cons record older inductionHypothesis =>
    by_cases here : scope.number = older.length + 1
    · simp only [modify, if_pos here, lineageIn, parent]
    · simp only [modify, if_neg here, lineageIn, length_modify]
      split
      · congr 1
        split
        · exact inductionHypothesis _
        · rfl
      · exact inductionHypothesis other

theorem lineage_cancel (scopes : Scopes) (now : Duration) (scope other : ScopeId) :
    (scopes.cancel now scope).lineage other = scopes.lineage other := by
  rw [← lineage_bare, bare_cancel, lineage, lineageIn_modify, ← lineage, lineage_bare]
  exact fun _ => rfl

/-- A scope that there is keeps its way to the root. -/
theorem Evolves.lineage {now : Duration} {before after : Scopes} {scope : ScopeId}
    (evolves : Evolves now before after) (known : before.Knows scope) :
    after.lineage scope = before.lineage scope := by
  cases evolves with
  | asked asked => rw [← lineage_bare, asked.bare, lineage_bare]
  | cancelled other => exact lineage_cancel before now other scope
  | added parent deadline =>
    have apart : scope.number ≠ before.records.length + 1 := by
      unfold Knows at known
      omega
    rw [Scopes.lineage, add, lineageIn, if_neg apart, Scopes.lineage]

end Scopes

end Taskyard

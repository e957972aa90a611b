/-
This file says how the end of a scope spreads: to every scope below it, and to no
other. A scope is below another if that one is on its way to the root. The end
comes down in two ways. A cancellation is looked up along the way to the root; and
no deadline is later than one further up, because a scope that is derived takes
the earlier of two. That holds for scopes that are derived late, from one that
has ended already, as well.

That nothing spreads to other scopes is said of two histories, one of which has a
cancellation more. The yards that they lead to are alike but for that one
cancellation, so that the scopes that are not below it end in both or in neither.
As long as the scopes alone are worked with they end for the same reason, too.
Otherwise they need not: a cancellation may let a body go, and who polls what may
then be different, and with it who asks first.
-/

import Taskyard.Proofs.EndReasons
import Taskyard.Workload.Perform

namespace Taskyard

namespace Scopes

variable {scopes : Scopes} {scope above : ScopeId}

/-! ### Up and down -/

theorem mem_lineageIn_self {scope : ScopeId} {records : List ScopeRecord}
    (known : (find? scope records).isSome) : scope ∈ lineageIn scope records := by
  induction records with
  | nil => cases known
  | cons record older inductionHypothesis =>
    unfold find? at known
    unfold lineageIn
    split
    · exact List.mem_cons_self
    · next apart =>
      rw [if_neg apart] at known
      exact inductionHypothesis known

/-- A newer scope does not hide the way to the root of an older one. -/
theorem lineageIn_cons {scope : ScopeId} {older : List ScopeRecord}
    (known : scope.number ≤ older.length) (record : ScopeRecord) :
    lineageIn scope (record :: older) = lineageIn scope older := by
  rw [lineageIn, if_neg (by omega)]

theorem mem_lineageIn_trans {scope middle above : ScopeId} {records : List ScopeRecord}
    (up : middle ∈ lineageIn scope records) (further : above ∈ lineageIn middle records) :
    above ∈ lineageIn scope records := by
  induction records generalizing scope with
  | nil => cases up
  | cons record older inductionHypothesis =>
    unfold lineageIn at up ⊢
    split at up
    · next here =>
      rw [if_pos here]
      rcases List.mem_cons.mp up with rfl | behind
      · rwa [lineageIn, if_pos here] at further
      · cases parent : record.parent with
        | none => simp [parent] at behind
        | some parent =>
          rw [parent] at behind
          rw [lineageIn_cons (mem_lineageIn behind)] at further
          exact List.mem_cons_of_mem _ (inductionHypothesis behind further)
    · next elsewhere =>
      rw [if_neg elsewhere]
      rw [lineageIn_cons (mem_lineageIn up)] at further
      exact inductionHypothesis up further

/-- Whatever was cancelled above a scope is above those below it. -/
theorem isCancelled_of_above (below : above ∈ scopes.lineage scope)
    (cancelled : scopes.isCancelled above = true) : scopes.isCancelled scope = true := by
  rw [isCancelled_eq_any, List.any_eq_true] at cancelled ⊢
  obtain ⟨marked, further, isMarked⟩ := cancelled
  exact ⟨marked, mem_lineageIn_trans below further, isMarked⟩

/-- No scope has a later deadline than one on its way to the root, and none has none if there is one
above. -/
def Narrows (scopes : Scopes) : Prop :=
  ∀ scope above deadline, above ∈ scopes.lineage scope → scopes.deadline? above = some deadline →
    ∃ own, scopes.deadline? scope = some own ∧ own ≤ deadline

theorem Narrows.of_bare {other : Scopes} (narrows : scopes.Narrows)
    (same : other.bare = scopes.bare) : other.Narrows := by
  intro scope above deadline below limit
  rw [← lineage_bare, same, lineage_bare] at below
  rw [← deadline?_bare, same, deadline?_bare] at limit ⊢
  exact narrows scope above deadline below limit

theorem lineage_add (scopes : Scopes) (parent : Option ScopeId) (deadline : Option Duration)
    (scope : ScopeId) : (scopes.add parent deadline).2.lineage scope =
      if scope.number = scopes.records.length + 1 then scope :: parent.elim [] scopes.lineage
      else scopes.lineage scope := by
  simp only [lineage, add, lineageIn]
  split
  · cases parent <;> rfl
  · rfl

theorem deadline?_add (scopes : Scopes) (parent : Option ScopeId) (deadline : Option Duration)
    (scope : ScopeId) : (scopes.add parent deadline).2.deadline? scope =
      if scope.number = scopes.records.length + 1 then deadline else scopes.deadline? scope := by
  simp only [deadline?, record?, add, find?]
  split <;> rfl

/-- A scope that is derived takes no later deadline than the one that it is derived from has. -/
theorem Narrows.add {parent : Option ScopeId} {deadline : Option Duration}
    (narrows : scopes.Narrows)
    (earlier : ∀ other limit, parent = some other → scopes.deadline? other = some limit →
      ∃ own, deadline = some own ∧ own ≤ limit) : (scopes.add parent deadline).2.Narrows := by
  intro scope above limit below given
  rw [lineage_add] at below
  rw [deadline?_add] at given ⊢
  have older : ∀ {other : ScopeId}, above ∈ scopes.lineage other →
      scopes.deadline? above = some limit := fun member => by
    have known := mem_lineageIn member
    rwa [if_neg (by omega)] at given
  split at below
  · next new =>
    rw [if_pos new]
    rcases List.mem_cons.mp below with rfl | further
    · rw [if_pos new] at given
      exact ⟨limit, given, Nat.le_refl _⟩
    · cases parent with
      | none => cases further
      | some parent =>
        obtain ⟨between, held, order⟩ := narrows parent above limit further (older further)
        obtain ⟨own, given, before⟩ := earlier parent between rfl held
        exact ⟨own, given, Nat.le_trans before order⟩
  · next old =>
    rw [if_neg old]
    exact narrows scope above limit below (older below)

/-- Where what is written is true, a scope has ended if one above it has. -/
theorem Narrows.ended {now : Duration} (narrows : scopes.Narrows) (honest : scopes.Honest now)
    (below : above ∈ scopes.lineage scope) (ended : (scopes.ended? now above).isSome) :
    (scopes.ended? now scope).isSome := by
  refine (honest.ended_iff scope).mpr ?_
  refine ((honest.ended_iff above).mp ended).imp (fun overdue => ?_) (isCancelled_of_above below)
  obtain ⟨deadline, limit, passed⟩ := isOverdue_iff.mp overdue
  obtain ⟨own, held, order⟩ := narrows scope above deadline below limit
  exact isOverdue_iff.mpr ⟨own, held, Nat.le_trans order passed⟩

/-! ### Beside -/

/-- A scope is not cancelled with another that is not on its way to the root. -/
theorem isCancelled_cancel {now : Duration} (beside : above ∉ scopes.lineage scope) :
    (scopes.cancel now above).isCancelled scope = scopes.isCancelled scope := by
  rw [isCancelled_eq_any, isCancelled_eq_any, lineage_cancel, Bool.eq_iff_iff, List.any_eq_true,
    List.any_eq_true]
  refine exists_congr fun other => and_congr_right fun member => ?_
  rw [isMarked_cancel]
  exact or_iff_left fun same => beside (same.1 ▸ member)

/-- Nor is anything written down of its end. -/
theorem written?_cancel_of_beside {now : Duration} (beside : above ∉ scopes.lineage scope) :
    (scopes.cancel now above).written? scope = scopes.written? scope := by
  rw [written?_cancel, written?_settle]
  split
  · next same =>
    have unknown : scopes.record? scope = none := Option.not_isSome_iff_eq_none.mp fun known =>
      beside (same ▸ mem_lineageIn_self known)
    simp [unknown, written?]
  · rfl

/-- What is heard of the end of a scope depends on what is written down, on the deadline and on the
cancellations. -/
theorem ended?_congr {other : Scopes} {now moment : Duration}
    (written : scopes.written? scope = other.written? scope)
    (overdue : scopes.isOverdue now scope = other.isOverdue moment scope)
    (mark : scopes.isCancelled scope = other.isCancelled scope) :
    scopes.ended? now scope = other.ended? moment scope := by
  rw [written?, written?] at written
  rw [ended?, written, overdue, mark, ended?]

theorem modify_comm (change : ScopeRecord → ScopeRecord) (first second : ScopeId)
    (records : List ScopeRecord) :
    modify first change (modify second change records) =
      modify second change (modify first change records) := by
  induction records with
  | nil => rfl
  | cons record older inductionHypothesis =>
    by_cases one : first.number = older.length + 1 <;>
      by_cases other : second.number = older.length + 1 <;>
      simp [modify, length_modify, one, other, inductionHypothesis]

theorem bare_cancel_cancel (scopes : Scopes) (moment now : Duration) (first second : ScopeId) :
    ((scopes.cancel moment first).cancel now second).bare =
      ((scopes.cancel now second).cancel moment first).bare := by
  rw [bare_cancel, bare_cancel, bare_cancel, bare_cancel]
  exact congrArg Scopes.mk (modify_comm _ second first _)

theorem isSome_record?_cancel (scopes : Scopes) (now : Duration) (scope other : ScopeId) :
    ((scopes.cancel now scope).record? other).isSome = (scopes.record? other).isSome := by
  rw [record?, cancel, find?_modify, ← record?, record?_settle]
  split <;> cases scopes.record? other <;> rfl

/-- It makes no difference whether a scope is cancelled before another is opened or after. -/
theorem bare_add_cancel {now : Duration} (known : scopes.Knows scope) (parent : Option ScopeId)
    (deadline : Option Duration) :
    ((scopes.cancel now scope).add parent deadline).2.bare =
      ((scopes.add parent deadline).2.cancel now scope).bare := by
  unfold Knows at known
  rw [bare_add, bare_cancel, bare_cancel, bare_add]
  simp only [add, bare, modify, List.length_map]
  rw [if_neg (by omega)]

end Scopes

variable {Body : Type}

/-- Whether an event is one of those by which scopes are opened, cancelled and asked about and the
clock is moved. -/
def Event.isOfScopes : Event Body → Bool
  | .tick _ | .openScope _ | .cancel _ | .query _ => true
  | .push _ _ _ | .discard _ | .setTimeout _ | .release | .begin _ | .poll _ | .drop _ | .start _
  | .finish _ _ | .abandon _ => false

namespace Yard

variable {yard other : Yard Body} {scope cancelled : ScopeId}

/-- The scope that another is derived from. -/
def Descent.parent? : Descent → Option ScopeId
  | .root | .rootBefore _ => none
  | .child parent | .childBefore parent _ => some parent

/-- The scope that an event opens. -/
def opening (yard : Yard Body) : Event Body → List ScopeId
  | .openScope descent => [(yard.openScope descent).1]
  | _ => []

/-! ### Down -/

/-- A scope that is opened is the next one, and is derived from the one that was named. -/
theorem openScope_eq (yard : Yard Body) (descent : Descent) : ∃ deadline,
    yard.openScope descent = ((yard.scopes.add descent.parent? deadline).1,
      { yard with scopes := (yard.scopes.add descent.parent? deadline).2 }) ∧
    ∀ above limit, descent.parent? = some above → yard.scopes.deadline? above = some limit →
      ∃ own, deadline = some own ∧ own ≤ limit := by
  cases descent with
  | root => exact ⟨none, rfl, fun _ _ nobody => by cases nobody⟩
  | rootBefore deadline => exact ⟨some deadline, rfl, fun _ _ nobody => by cases nobody⟩
  | child parent =>
    refine ⟨_, rfl, fun above limit same held => ?_⟩
    cases same
    exact ⟨limit, held, Nat.le_refl _⟩
  | childBefore parent deadline =>
    refine ⟨_, rfl, fun above limit same held => ?_⟩
    cases same
    rw [held]
    exact ⟨_, rfl, limit.earlier_le_left deadline⟩

theorem lineage_openScope (yard : Yard Body) (descent : Descent) :
    (yard.openScope descent).2.scopes.lineage (yard.openScope descent).1 =
      (yard.openScope descent).1 :: descent.parent?.elim [] yard.scopes.lineage := by
  obtain ⟨deadline, opened, -⟩ := yard.openScope_eq descent
  rw [opened]
  exact (Scopes.lineage_add _ _ _ _).trans (if_pos rfl)

theorem Kept.narrows_step (kept : yard.Kept) (narrows : yard.scopes.Narrows)
    (event : Event Body) : (yard.step event).scopes.Narrows := by
  cases moves : event.movesEnds with
  | false => exact narrows.of_bare (kept.asked moves).bare
  | true =>
    cases event with
    | tick moment =>
      obtain ⟨now, -, moved⟩ := advanceTo_eq yard moment
      rwa [Yard.step, moved]
    | openScope descent =>
      obtain ⟨deadline, opened, earlier⟩ := yard.openScope_eq descent
      rw [Yard.step, opened]
      exact narrows.add earlier
    | cancel scope =>
      intro below above deadline member limit
      simp only [Yard.step, Yard.cancel, Scopes.lineage_cancel, Scopes.deadline?_cancel]
        at member limit ⊢
      exact narrows below above deadline member limit
    | _ => cases moves

theorem narrows_of_opened {options : Options} {start : Yard Body}
    (opened : openNoted? options = .ok start) (history : List (Event Body)) :
    (start.after history).scopes.Narrows := by
  have kept := (kept_openNoted? opened).1
  induction history using List.reverseRecOn with
  | nil =>
    obtain ⟨slots, -, rfl⟩ := openNoted?_eq opened
    exact fun _ _ _ none => by cases none
  | append_singleton earlier event inductionHypothesis =>
    rw [after_concat]
    exact (kept.after earlier).narrows_step inductionHypothesis event

/-! ### Two histories -/

theorem Alike.symm (alike : yard.Alike other) : other.Alike yard :=
  ⟨alike.now.symm, alike.bare.symm⟩

theorem Alike.trans {third : Yard Body} (one : yard.Alike other) (two : other.Alike third) :
    yard.Alike third := ⟨one.now.trans two.now, one.bare.trans two.bare⟩

theorem Alike.isCancelled (alike : yard.Alike other) (scope : ScopeId) :
    yard.scopes.isCancelled scope = other.scopes.isCancelled scope := by
  have marks : yard.scopes.isMarked = other.scopes.isMarked := funext fun mark => by
    rw [← Scopes.isMarked_bare, alike.bare, Scopes.isMarked_bare]
  rw [Scopes.isCancelled_eq_any, Scopes.isCancelled_eq_any, alike.lineage, marks]

/-- Yards that are alike but for the cancellation of a scope stay so, whatever happens to both. -/
theorem Alike.step_cancel (alike : yard.Alike (other.cancel cancelled)) (kept : yard.Kept)
    (otherKept : other.Kept) (known : other.scopes.Knows cancelled) (event : Event Body) :
    (yard.step event).Alike ((other.step event).cancel cancelled) := by
  cases moves : event.movesEnds with
  | false =>
    have still := (otherKept.alike_step moves).1
    exact (kept.alike_step moves).1.trans (alike.trans (still.symm.cancel cancelled).1)
  | true =>
    cases event with
    | tick moment =>
      have clock : yard.now = other.now := alike.now
      simp only [Yard.step, advanceTo, clock]
      split
      · refine ⟨rfl, alike.bare.trans ?_⟩
        simp only [Yard.cancel, Scopes.bare_cancel]
      · exact alike
    | openScope descent =>
      have swapped : ((other.cancel cancelled).openScope descent).2.scopes.bare =
          ((other.openScope descent).2.cancel cancelled).scopes.bare := by
        cases descent with
        | root | rootBefore => exact Scopes.bare_add_cancel known _ _
        | child | childBefore =>
          simp only [Yard.openScope, Scopes.child, Scopes.childBefore, Yard.cancel,
            Scopes.deadline?_cancel]
          exact Scopes.bare_add_cancel known _ _
      exact (alike.openScope descent).trans ⟨rfl, swapped⟩
    | cancel scope =>
      exact (alike.cancel scope).1.trans
        ⟨rfl, Scopes.bare_cancel_cancel other.scopes other.now other.now cancelled scope⟩
    | _ => cases moves

theorem Kept.alike_after_cancel (kept : yard.Kept) (known : yard.scopes.Knows cancelled)
    (history : List (Event Body)) :
    ((yard.cancel cancelled).after history).Alike ((yard.after history).cancel cancelled) := by
  have knownAfter := kept.scopes_after (fun scopes => scopes.Knows cancelled) Scopes.Evolves.knows
    known
  induction history using List.reverseRecOn with
  | nil => exact ⟨rfl, rfl⟩
  | append_singleton earlier event inductionHypothesis =>
    rw [after_concat, after_concat]
    exact inductionHypothesis.step_cancel ((kept.step (.cancel cancelled)).after earlier)
      (kept.after earlier) (knownAfter earlier) event

/-- Nothing that ends a scope is different for a cancellation beside it. -/
theorem Alike.beside (alike : yard.Alike (other.cancel cancelled))
    (beside : cancelled ∉ other.scopes.lineage scope) :
    yard.scopes.isOverdue yard.now scope = other.scopes.isOverdue other.now scope ∧
      yard.scopes.isCancelled scope = other.scopes.isCancelled scope := by
  have clock : yard.now = other.now := alike.now
  have limit : yard.scopes.deadline? scope = other.scopes.deadline? scope :=
    (alike.deadline? scope).trans (Scopes.deadline?_cancel _ _ _ _)
  refine ⟨by rw [Scopes.isOverdue, limit, clock, Scopes.isOverdue], ?_⟩
  exact (alike.isCancelled scope).trans (Scopes.isCancelled_cancel beside)

/-- Two yards that are alike but for the cancellation of a scope, and in which the same is written
down of the scopes that are not below that one. -/
structure Spared (cancelled : ScopeId) (yard other : Yard Body) : Prop where
  alike : yard.Alike (other.cancel cancelled)
  written : ∀ scope, cancelled ∉ other.scopes.lineage scope →
    yard.scopes.written? scope = other.scopes.written? scope

theorem spared_cancel (yard : Yard Body) (cancelled : ScopeId) :
    Spared cancelled (yard.cancel cancelled) yard :=
  ⟨⟨rfl, rfl⟩, fun _ beside => Scopes.written?_cancel_of_beside beside⟩

theorem Spared.ended? (spared : Spared cancelled yard other)
    (beside : cancelled ∉ other.scopes.lineage scope) : yard.ended? scope = other.ended? scope := by
  obtain ⟨overdue, mark⟩ := spared.alike.beside beside
  exact Scopes.ended?_congr (spared.written scope beside) overdue mark

theorem Spared.length (spared : Spared cancelled yard other) :
    yard.scopes.records.length = other.scopes.records.length := by
  have lengths : ∀ scopes : Scopes, scopes.bare.records.length = scopes.records.length :=
    fun scopes => List.length_map _
  rw [← lengths, spared.alike.bare, Yard.cancel, Scopes.bare_cancel, Scopes.length_modify, lengths]

theorem written?_query (yard : Yard Body) (asked scope : ScopeId) :
    (yard.query asked).2.scopes.written? scope =
      if scope = asked then yard.ended? asked else yard.scopes.written? scope := by
  cases ended : yard.ended? asked with
  | some reason =>
    rw [query_of_some ended]
    split
    · next same => rw [same, Scopes.written?_settle_of_ended ended]
    · next apart => rw [Scopes.written?_settle, if_neg apart]
  | none =>
    rw [query_of_none ended]
    split
    · next same =>
      refine Option.eq_none_iff_forall_ne_some.mpr fun reason written => ?_
      have known := Scopes.ended?_of_written (same ▸ written) yard.now
      rw [← Yard.ended?, ended] at known
      cases known
    · rfl

/-- While the scopes alone are worked with, nothing shows of a cancellation elsewhere. -/
theorem Spared.step (spared : Spared cancelled yard other) (kept : yard.Kept)
    (otherKept : other.Kept) (known : other.scopes.Knows cancelled) {event : Event Body}
    (ofScopes : event.isOfScopes = true) :
    Spared cancelled (yard.step event) (other.step event) := by
  refine ⟨spared.alike.step_cancel kept otherKept known event, fun scope beside => ?_⟩
  have records : (yard.scopes.record? scope).isSome = (other.scopes.record? scope).isSome :=
    (spared.alike.isSome_record? scope).trans (Scopes.isSome_record?_cancel _ _ _ _)
  cases event with
  | tick moment =>
    obtain ⟨now, -, moved⟩ := advanceTo_eq yard moment
    obtain ⟨otherNow, -, otherMoved⟩ := advanceTo_eq other moment
    rw [Yard.step, otherMoved] at beside
    rw [Yard.step, moved, Yard.step, otherMoved]
    exact spared.written scope beside
  | openScope descent =>
    obtain ⟨deadline, opened, -⟩ := yard.openScope_eq descent
    obtain ⟨otherDeadline, otherOpened, -⟩ := other.openScope_eq descent
    rw [Yard.step, otherOpened, Scopes.lineage_add] at beside
    rw [Yard.step, opened, Yard.step, otherOpened, Scopes.written?_add, Scopes.written?_add,
      spared.length]
    split
    · rfl
    · next old => exact spared.written scope (by rwa [if_neg old] at beside)
  | cancel another =>
    rw [Yard.step, Yard.cancel, Scopes.lineage_cancel] at beside
    rw [Yard.step, Yard.step, Yard.cancel, Yard.cancel, Scopes.written?_cancel,
      Scopes.written?_cancel, Scopes.written?_settle, Scopes.written?_settle]
    split
    · next same =>
      subst same
      obtain ⟨overdue, -⟩ := spared.alike.beside beside
      rw [spared.written _ beside, overdue, records]
    · exact spared.written scope beside
  | query asked =>
    have asks : Scopes.Asked other.now other.scopes (other.query asked).2.scopes :=
      Scopes.Asked.nothing.query asked
    rw [Yard.step, ← Scopes.lineage_bare, asks.bare, Scopes.lineage_bare] at beside
    rw [Yard.step, Yard.step, written?_query, written?_query]
    split
    · next same =>
      subst same
      exact spared.ended? beside
    · exact spared.written scope beside
  | _ => cases ofScopes

theorem Kept.spared_after_cancel (kept : yard.Kept) (known : yard.scopes.Knows cancelled)
    {history : List (Event Body)} (ofScopes : ∀ event ∈ history, event.isOfScopes = true) :
    Spared cancelled ((yard.cancel cancelled).after history) (yard.after history) := by
  have knownAfter := kept.scopes_after (fun scopes => scopes.Knows cancelled) Scopes.Evolves.knows
    known
  induction history using List.reverseRecOn with
  | nil => exact yard.spared_cancel cancelled
  | append_singleton earlier event inductionHypothesis =>
    obtain ⟨before, last⟩ := List.forall_mem_append.mp ofScopes
    rw [after_concat, after_concat]
    exact (inductionHypothesis before).step ((kept.step (.cancel cancelled)).after earlier)
      (kept.after earlier) (knownAfter earlier) (last event List.mem_cons_self)

/-! ### Numbers -/

/-- The scopes that a history opens are numbered one after the other. -/
theorem opening_bounds {options : Options} {start : Yard Body}
    (opened : openNoted? options = .ok start) (history : List (Event Body)) :
    (start.chronicle opening history).Nodup ∧
      ∀ scope ∈ start.chronicle opening history, (start.after history).scopes.Knows scope := by
  have kept := (kept_openNoted? opened).1
  induction history using List.reverseRecOn with
  | nil => exact ⟨List.nodup_nil, List.forall_mem_nil _⟩
  | append_singleton earlier event inductionHypothesis =>
    obtain ⟨distinct, known⟩ := inductionHypothesis
    have still : ∀ scope ∈ start.chronicle opening earlier,
        ((start.after earlier).step event).scopes.Knows scope := fun scope listed =>
      ((kept.after earlier).evolves event).knows (known scope listed)
    rw [chronicle_concat, after_concat]
    cases event with
    | openScope descent =>
      obtain ⟨deadline, added, -⟩ := (start.after earlier).openScope_eq descent
      have new : (start.after earlier).opening (.openScope descent) =
          [⟨(start.after earlier).scopes.records.length + 1⟩] := by
        rw [opening, added]
        rfl
      rw [new]
      refine ⟨List.nodup_append.mpr ⟨distinct, by simp, fun scope listed other single => ?_⟩, ?_⟩
      · rw [List.mem_singleton.mp single]
        have older : scope.number ≤ _ := known scope listed
        exact fun same => Nat.not_succ_le_self _ (same ▸ older)
      · intro scope listed
        rcases List.mem_append.mp listed with before | single
        · exact still scope before
        · rw [List.mem_singleton.mp single, Yard.step, added]
          exact Nat.le_refl _
    | _ =>
      simp only [opening, List.append_nil]
      exact ⟨distinct, still⟩

/-- A scope that is opened was not there before. -/
theorem record?_openScope (yard : Yard Body) (descent : Descent) :
    yard.scopes.record? (yard.openScope descent).1 = none ∧
      ((yard.openScope descent).2.scopes.record? (yard.openScope descent).1).isSome := by
  obtain ⟨deadline, opened, -⟩ := yard.openScope_eq descent
  rw [opened]
  constructor
  · refine Option.not_isSome_iff_eq_none.mp fun known => ?_
    exact Nat.not_succ_le_self _ (Scopes.knows_of_find? known)
  · simp [Scopes.record?, Scopes.add, Scopes.find?]

/-! ### Ends -/

/-- How the ends of scopes spread after a history. -/
structure SpreadsDown (start : Yard Body) (history : List (Event Body)) : Prop where
  /-- A scope that is derived from another is below it and whatever that one is below. -/
  derives : ∀ descent parent, Descent.parent? descent = some parent →
    ((start.after history).openScope descent).2.scopes.lineage
      ((start.after history).openScope descent).1 =
        ((start.after history).openScope descent).1 :: (start.after history).scopes.lineage parent
  /-- No deadline is later than one further up. -/
  narrows : ∀ scope above deadline, above ∈ (start.after history).scopes.lineage scope →
    (start.after history).scopes.deadline? above = some deadline →
    ∃ own, (start.after history).scopes.deadline? scope = some own ∧ own ≤ deadline
  /-- A scope that has ended, at this time or earlier, has ended for every scope below it. -/
  descends : ∀ earlier later scope above, history = earlier ++ later →
    ((start.after earlier).ended? above).isSome →
    above ∈ (start.after history).scopes.lineage scope →
    ((start.after history).ended? scope).isSome
  /-- A cancellation changes nothing for scopes that are not below the one that is cancelled. -/
  spares : ∀ cancelled scope, (start.after history).scopes.Knows cancelled →
    cancelled ∉ (start.after history).scopes.lineage scope →
    (start.after (history ++ [.cancel cancelled])).ended? scope = (start.after history).ended? scope
  /-- It changes nothing for their reasons either while the scopes alone are worked with. -/
  sparesReasons : ∀ cancelled scope later, (start.after history).scopes.Knows cancelled →
    (∀ event ∈ later, event.isOfScopes = true) →
    cancelled ∉ (start.after (history ++ later)).scopes.lineage scope →
    (start.after (history ++ .cancel cancelled :: later)).ended? scope =
      (start.after (history ++ later)).ended? scope
  /-- They end at the same times, whatever happens later. -/
  sparesEnds : ∀ cancelled scope later, (start.after history).scopes.Knows cancelled →
    cancelled ∉ (start.after (history ++ later)).scopes.lineage scope →
    ((start.after (history ++ .cancel cancelled :: later)).ended? scope).isSome =
      ((start.after (history ++ later)).ended? scope).isSome
  /-- A scope that is opened is none of those that there are. -/
  fresh : ∀ descent, (start.after history).scopes.record?
    ((start.after history).openScope descent).1 = none
  /-- No two scopes that were opened are the same. -/
  distinct : (start.chronicle opening history).Nodup

theorem spreadsDown_of_opened {options : Options} {start : Yard Body}
    (opened : openNoted? options = .ok start) (history : List (Event Body)) :
    start.SpreadsDown history where
  derives descent parent named := by
    rw [lineage_openScope, named, Option.elim_some]
  narrows := narrows_of_opened opened history
  descends earlier later scope above split ended below := by
    have kept := (kept_openNoted? opened).1.after earlier
    have honest := honest_of_opened opened earlier
    refine (narrows_of_opened opened history).ended (honest_of_opened opened history) below ?_
    rw [split, after_append]
    exact kept.ended_after honest ended later
  spares cancelled scope known beside := by
    rw [after_concat]
    exact ((start.after history).spared_cancel cancelled).ended? beside
  sparesReasons cancelled scope later known ofScopes beside := by
    have kept := (kept_openNoted? opened).1.after history
    rw [after_append] at beside
    rw [after_append, after_append]
    exact (kept.spared_after_cancel known ofScopes).ended? beside
  sparesEnds cancelled scope later known beside := by
    have kept := (kept_openNoted? opened).1.after history
    have honest := honest_of_opened opened (history ++ .cancel cancelled :: later)
    have otherHonest := honest_of_opened opened (history ++ later)
    rw [after_append] at beside honest otherHonest
    rw [after_append, after_append]
    obtain ⟨overdue, mark⟩ := (kept.alike_after_cancel known later).beside beside
    rw [Bool.eq_iff_iff, Yard.ended?, Yard.ended?, otherHonest.ended_iff, ← overdue, ← mark]
    exact honest.ended_iff scope
  fresh descent := ((start.after history).record?_openScope descent).1
  distinct := (opening_bounds opened history).1

end Yard

/-! ### Names -/

/-- What a new name stands for. -/
inductive World.Stands (world later : World) (self : Option ScopeId) (scope : ScopeId) :
    ScopeSource → Prop
  /-- A clone is the scope that it was made of, and no scope is opened for it. -/
  | clone {known : String} (found : world.scope? self known = some scope)
      (unmoved : later.yard = world.yard) : Stands world later self scope (.clone known)
  /-- From any other source a scope is opened that was not there. -/
  | opened {source : ScopeSource} (another : ∀ known, source ≠ .clone known)
      (absent : world.yard.scopes.record? scope = none)
      (present : (later.yard.scopes.record? scope).isSome) : Stands world later self scope source

namespace World

variable {world : World} {self : Option ScopeId} {name : String} {scope : ScopeId}

theorem stands_named {source : ScopeSource} {descent : Yard.Descent}
    (another : ∀ known, source ≠ .clone known)
    (answered : (world.named name descent).1 = .answered (.opened scope)) :
    world.Stands (world.named name descent).2 self scope source ∧
      (world.named name descent).2.scopes.get? name = some scope := by
  obtain ⟨absent, present⟩ := world.yard.record?_openScope descent
  cases answered
  exact ⟨.opened another absent present, (Listing.get?_put _ _ _ _).trans (if_pos rfl)⟩

theorem stands_namedFor {source : ScopeSource} {span : Duration}
    {descent : Duration → Yard.Descent} (another : ∀ known, source ≠ .clone known)
    (answered : (world.namedFor name span descent).1 = .answered (.opened scope)) :
    world.Stands (world.namedFor name span descent).2 self scope source ∧
      (world.namedFor name span descent).2.scopes.get? name = some scope := by
  unfold namedFor at answered ⊢
  split at answered
  · exact stands_named another answered
  · cases answered

theorem stands_openNamed {source : ScopeSource}
    (answered : (world.openNamed self name source).1 = .answered (.opened scope)) :
    world.Stands (world.openNamed self name source).2 self scope source ∧
      (world.openNamed self name source).2.scopes.get? name = some scope := by
  cases source with
  | fresh => exact stands_named (by simp) answered
  | timeout span => exact stands_namedFor (by simp) answered
  | deadline moment => exact stands_named (by simp) answered
  | child parent =>
    unfold openNamed at answered ⊢
    simp only at answered ⊢
    split at answered
    · exact stands_named (by simp) answered
    · cases answered
  | childTimeout parent span =>
    unfold openNamed at answered ⊢
    simp only at answered ⊢
    split at answered
    · exact stands_namedFor (by simp) answered
    · cases answered
  | clone known =>
    unfold openNamed at answered ⊢
    simp only at answered ⊢
    split at answered
    · next found =>
      cases answered
      exact ⟨.clone found rfl, (Listing.get?_put _ _ _ _).trans (if_pos rfl)⟩
    · cases answered

end World

namespace Yard

/-- The end of a scope spreads to every scope below it and to no other, and every scope that is
derived is a new one, whereas a clone is the scope that it was made of. -/
theorem spreadsDown {options : Options} {start : Yard Body}
    (opened : openNoted? options = .ok start) (history : List (Event Body)) :
    start.SpreadsDown history ∧
    ∀ (world : World) (self : Option ScopeId) (name : String) (source : ScopeSource)
      (scope : ScopeId), (world.openNamed self name source).1 = .answered (.opened scope) →
      world.Stands (world.openNamed self name source).2 self scope source ∧
        (world.openNamed self name source).2.scopes.get? name = some scope :=
  ⟨spreadsDown_of_opened opened history,
    fun _ _ _ _ _ answered => World.stands_openNamed answered⟩

/-- A scope with a deadline is derived from a root, and another from that one. The first of the two
is cancelled, and then a third is derived from it. -/
def branches : List (Event Unit) :=
  [.openScope .root, .openScope (.childBefore ⟨1⟩ (.ofMillis 10)), .openScope (.child ⟨2⟩),
    .cancel ⟨2⟩, .openScope (.child ⟨2⟩)]

/-- The third has ended when it is derived; the root has not. -/
theorem spreadsDown_branches : ∃ start : Yard Unit, openNoted? (.ofCapacity 1) = .ok start ∧
    start.SpreadsDown branches ∧
    (start.after branches).scopes.lineage ⟨4⟩ = [⟨4⟩, ⟨2⟩, ⟨1⟩] ∧
    (start.after branches).scopes.deadline? ⟨4⟩ = some (.ofMillis 10) ∧
    ((start.after branches).ended? ⟨4⟩).isSome ∧
    (start.after branches).ended? ⟨1⟩ = none := by
  have run : ∃ start : Yard Unit, openNoted? (.ofCapacity 1) = .ok start ∧
      (start.after branches).scopes.lineage ⟨4⟩ = [⟨4⟩, ⟨2⟩, ⟨1⟩] ∧
      (start.after branches).scopes.deadline? ⟨4⟩ = some (.ofMillis 10) ∧
      ((start.after (branches.take 4)).ended? ⟨2⟩).isSome ∧
      (start.after branches).ended? ⟨1⟩ = none :=
    ⟨_, rfl, rfl, rfl, rfl, rfl⟩
  obtain ⟨start, opened, below, limit, ended, going⟩ := run
  obtain ⟨spreads, -⟩ := spreadsDown opened branches
  refine ⟨start, opened, spreads, below, limit, ?_, going⟩
  exact spreads.descends (branches.take 4) (branches.drop 4) ⟨4⟩ ⟨2⟩ rfl ended (by simp [below])

end Yard

end Taskyard

/-
This file says why a scope ends. Two things end it: its deadline, and the first
cancellation of it or of a scope on its way to the root. One would like the
earlier of the two to be the reason that everybody hears. It is, with one
exception. Nobody writes down that a scope was cancelled when the cancellation
came from above; that is found out by the first who asks, and who asks looks at
the deadline first. If nobody asks between the cancellation and the deadline,
everybody who asks afterwards hears that the deadline has passed. The file shows
that this is the only exception, and that it is one.

Two histories with the same clock, scopes and cancellations may differ in who
looked when, and in everything else that happens. What is due is the same in
both, and what is heard differs only by that exception.
-/

import Taskyard.Proofs.Chronicle
import Taskyard.Proofs.Lineage
import Taskyard.Proofs.Order.Bystanders

namespace Taskyard

namespace Scopes

/-! ### Writing a reason down -/

theorem isOverdue_iff {scopes : Scopes} {now : Duration} {scope : ScopeId} :
    scopes.isOverdue now scope = true ↔
      ∃ deadline, scopes.deadline? scope = some deadline ∧ deadline ≤ now := by
  unfold isOverdue
  cases scopes.deadline? scope <;> simp

/-- Where nothing is written down, whoever asks looks at the deadline first. -/
theorem ended?_of_silent {scopes : Scopes} {now : Duration} {scope : ScopeId}
    (silent : scopes.written? scope = none) : scopes.ended? now scope =
      if scopes.isOverdue now scope then some .deadlineExceeded
      else if scopes.isCancelled scope then some .cancelled else none := by
  rw [written?] at silent
  rw [ended?, silent]

/-- A reason that is written down says whether the deadline has passed by then. -/
theorem Evolves.fresh {now : Duration} {before after : Scopes} {scope : ScopeId}
    {reason : EndReason} (evolves : Evolves now before after)
    (silent : before.written? scope = none) (written : after.written? scope = some reason) :
    reason = if after.isOverdue now scope then .deadlineExceeded else .cancelled := by
  cases evolves with
  | asked asked =>
    induction asked with
    | nothing => simp [silent] at written
    | @settled between other said asked ended inductionHypothesis =>
      rw [isOverdue_settle]
      rw [written?_settle] at written
      cases known : between.written? scope with
      | some former =>
        refine inductionHypothesis ?_
        rw [record?_of_written known, known] at written
        simpa [known] using written
      | none =>
        split at written
        · next same =>
          subst same
          rw [record?_of_ended ended, known] at written
          rw [ended?_of_silent known] at ended
          have said : said = reason := by simpa using written
          subst said
          split at ended
          · next overdue => simpa [overdue] using ended.symm
          · next onTime =>
            split at ended
            · simpa [onTime] using ended.symm
            · cases ended
        · rw [known] at written
          cases written
  | cancelled other =>
    rw [written?_cancel, written?_settle, silent] at written
    rw [isOverdue_cancel]
    split at written
    · next same =>
      subst same
      split at written
      · simpa using written.symm
      · cases written
    · cases written
  | added parent deadline =>
    rw [written?_add, silent, ite_self] at written
    cases written

end Scopes

/-- Why a scope should have ended by a moment, given when it was cancelled first, itself or on its
way to the root, and its deadline: whichever came first, and the deadline if both came at once. -/
def EndReason.due? (now : Duration) (cancelled deadline : Option Duration) : Option EndReason :=
  if cancelled.any fun first => decide (first ≤ now) && deadline.all (first < ·) then
    some .cancelled
  else if cancelled.any (· ≤ now) || deadline.any (· ≤ now) then some .deadlineExceeded
  else none

namespace EndReason

variable {now : Duration} {cancelled deadline : Option Duration}

theorem due?_of_early {first : Duration} (past : first ≤ now)
    (ahead : ∀ moment, deadline = some moment → first < moment) :
    due? now (some first) deadline = some .cancelled := by
  unfold due?
  rw [if_pos]
  cases deadline with
  | none => simp [past]
  | some moment => simp [past, ahead moment rfl]

theorem due?_of_late {moment : Duration} (past : moment ≤ now)
    (behind : ∀ first, cancelled = some first → ¬first < moment) :
    due? now cancelled (some moment) = some .deadlineExceeded := by
  unfold due?
  rw [if_neg, if_pos (by simp [past])]
  cases cancelled with
  | none => simp
  | some first => simp [behind first rfl]

theorem due?_of_going (ahead : ∀ moment, deadline = some moment → ¬moment ≤ now) :
    due? now none deadline = none := by
  unfold due?
  rw [if_neg (by simp), if_neg]
  cases deadline with
  | none => simp
  | some moment => simp [ahead moment rfl]

end EndReason

variable {Body : Type}

namespace Yard

variable {yard start : Yard Body} {scope : ScopeId} {history : List (Event Body)}

/-! ### Cancellations -/

/-- The scope that an event cancels, if there is such a scope, and the moment. -/
def cancelling (yard : Yard Body) : Event Body → List (Duration × ScopeId)
  | .cancel scope => if (yard.scopes.record? scope).isSome then [(yard.now, scope)] else []
  | _ => []

/-- When a scope or one on its way to the root was cancelled in the course of a history. -/
def cancellations (start : Yard Body) (history : List (Event Body)) (scope : ScopeId) :
    List Duration :=
  ((start.chronicle cancelling history).filter fun entry =>
    entry.2 ∈ (start.after history).scopes.lineage scope).map Prod.fst

/-- Why a scope should have ended after a history. -/
def due? (start : Yard Body) (history : List (Event Body)) (scope : ScopeId) : Option EndReason :=
  EndReason.due? (start.after history).now (start.cancellations history scope).head?
    ((start.after history).scopes.deadline? scope)

/-- What somebody hears who asks after a history why a scope has ended. -/
def heard? (start : Yard Body) (history : List (Event Body)) (scope : ScopeId) :
    Option EndReason :=
  ((start.after history).query scope).1

/-- Whether a scope was cancelled before its deadline and nothing was written down of that until the
deadline had passed. -/
def IsOverlooked (start : Yard Body) (history : List (Event Body)) (scope : ScopeId) : Prop :=
  ∃ cancelled deadline, (start.cancellations history scope).head? = some cancelled ∧
    (start.after history).scopes.deadline? scope = some deadline ∧
    cancelled < deadline ∧ deadline ≤ (start.after history).now ∧
    ∀ earlier, earlier <+: history → (start.after earlier).now < deadline →
      (start.after earlier).scopes.written? scope = none

theorem heard?_eq_ended? (start : Yard Body) (history : List (Event Body)) (scope : ScopeId) :
    start.heard? history scope = (start.after history).ended? scope := by
  unfold heard?
  cases ended : (start.after history).ended? scope with
  | none => rw [query_of_none ended]
  | some reason => rw [query_of_some ended]

theorem Kept.isMarked_step (kept : yard.Kept) (event : Event Body) (scope : ScopeId) :
    (yard.step event).scopes.isMarked scope = true ↔
      yard.scopes.isMarked scope = true ∨ ∃ moment, (moment, scope) ∈ yard.cancelling event := by
  cases moves : event.movesEnds with
  | false =>
    have nothing : yard.cancelling event = [] := by
      cases event with
      | cancel other => cases moves
      | _ => rfl
    rw [← Scopes.isMarked_bare, (kept.asked moves).bare, Scopes.isMarked_bare, nothing]
    simp
  | true =>
    cases event with
    | tick moment =>
      obtain ⟨now, -, moved⟩ := advanceTo_eq yard moment
      rw [Yard.step, moved]
      simp [cancelling]
    | openScope descent =>
      have added : ∃ parent deadline,
          (yard.openScope descent).2.scopes = (yard.scopes.add parent deadline).2 := by
        cases descent <;> exact ⟨_, _, rfl⟩
      obtain ⟨parent, deadline, same⟩ := added
      rw [Yard.step, same, Scopes.isMarked_add]
      simp [cancelling]
    | cancel other =>
      rw [Yard.step, Yard.cancel, Scopes.isMarked_cancel, cancelling]
      by_cases same : scope = other
      · subst same
        cases yard.scopes.record? scope <;> simp
      · split <;> simp [same]
    | _ => cases moves

/-- A scope is one that was cancelled itself if one of the events cancelled it. -/
theorem Kept.isMarked_after (kept : start.Kept) (unmarked : start.scopes.isMarked scope = false)
    (history : List (Event Body)) :
    (start.after history).scopes.isMarked scope = true ↔
      ∃ moment, (moment, scope) ∈ start.chronicle cancelling history := by
  induction history using List.reverseRecOn with
  | nil => simp [after_nil, unmarked, chronicle]
  | append_singleton earlier event inductionHypothesis =>
    rw [after_concat, (kept.after earlier).isMarked_step, inductionHypothesis, chronicle_concat,
      ← exists_or]
    simp only [List.mem_append]

theorem Kept.now_le_after (kept : yard.Kept) (history : List (Event Body)) :
    yard.now ≤ (yard.after history).now := by
  induction history using List.reverseRecOn with
  | nil => exact Nat.le_refl _
  | append_singleton earlier event inductionHypothesis =>
    rw [after_concat]
    exact Nat.le_trans inductionHypothesis ((kept.after earlier).now_step event).1

/-- No cancellation lies in the future. -/
theorem Kept.le_now_of_cancelling (kept : start.Kept) {entry : Duration × ScopeId}
    (member : entry ∈ start.chronicle cancelling history) :
    entry.1 ≤ (start.after history).now := by
  obtain ⟨earlier, event, later, rfl, brought⟩ := mem_chronicle member
  have sameMoment : entry.1 = (start.after earlier).now := by
    cases event with
    | cancel other =>
      rw [cancelling, List.mem_ite_nil_right, List.mem_singleton] at brought
      rw [brought.2]
    | _ => cases brought
  rw [sameMoment, after_append]
  exact (kept.after earlier).now_le_after _

theorem Kept.le_now_of_mem (kept : start.Kept) {moment : Duration}
    (member : moment ∈ start.cancellations history scope) : moment ≤ (start.after history).now := by
  obtain ⟨entry, listed, rfl⟩ := List.mem_map.mp member
  exact kept.le_now_of_cancelling (List.mem_of_mem_filter listed)

/-! ### What lasts -/

/-- What no event undoes of the scopes lasts. -/
theorem Kept.scopes_after (kept : yard.Kept) (property : Scopes → Prop)
    (lasts : ∀ {now before later}, Scopes.Evolves now before later →
      property before → property later)
    (holds : property yard.scopes) (history : List (Event Body)) :
    property (yard.after history).scopes := by
  induction history using List.reverseRecOn with
  | nil => exact holds
  | append_singleton earlier event inductionHypothesis =>
    rw [after_concat]
    exact lasts ((kept.after earlier).evolves event) inductionHypothesis

theorem Kept.written_after (kept : yard.Kept) {reason : EndReason}
    (written : yard.scopes.written? scope = some reason) (history : List (Event Body)) :
    (yard.after history).scopes.written? scope = some reason :=
  kept.scopes_after (fun scopes => scopes.written? scope = some reason) Scopes.Evolves.written
    written history

/-- A scope that there is keeps its deadline and its way to the root. -/
theorem Kept.place_after (kept : yard.Kept) (known : yard.scopes.Knows scope)
    (history : List (Event Body)) :
    (yard.after history).scopes.deadline? scope = yard.scopes.deadline? scope ∧
      (yard.after history).scopes.lineage scope = yard.scopes.lineage scope := by
  have lasts := kept.scopes_after
    (fun scopes => scopes.Knows scope ∧
      scopes.deadline? scope = yard.scopes.deadline? scope ∧
      scopes.lineage scope = yard.scopes.lineage scope)
    (fun evolves ⟨known, deadline, lineage⟩ => ⟨evolves.knows known,
      (evolves.deadline? known).trans deadline, (evolves.lineage known).trans lineage⟩)
    ⟨known, rfl, rfl⟩ history
  exact lasts.2

theorem Kept.honest_after (kept : yard.Kept) (honest : yard.scopes.Honest yard.now)
    (history : List (Event Body)) :
    (yard.after history).scopes.Honest (yard.after history).now := by
  induction history using List.reverseRecOn with
  | nil => exact honest
  | append_singleton earlier event inductionHypothesis =>
    rw [after_concat]
    have order := ((kept.after earlier).now_step event).1
    exact (inductionHypothesis.evolve ((kept.after earlier).evolves event)).later order

/-- A scope that has ended stays so. -/
theorem Kept.ended_after (kept : yard.Kept) (honest : yard.scopes.Honest yard.now)
    (ended : (yard.ended? scope).isSome) (history : List (Event Body)) :
    ((yard.after history).ended? scope).isSome := by
  induction history using List.reverseRecOn with
  | nil => exact ended
  | append_singleton earlier event inductionHypothesis =>
    rw [after_concat]
    exact ((kept.after earlier).evolves event).ended (kept.honest_after honest earlier)
      ((kept.after earlier).now_step event).1 inductionHypothesis

/-- An event that writes a reason down says whether the deadline has passed by then. -/
theorem Kept.reason_of_fresh (kept : yard.Kept) {event : Event Body} {reason : EndReason}
    (silent : yard.scopes.written? scope = none)
    (written : (yard.step event).scopes.written? scope = some reason) :
    reason = if (yard.step event).scopes.isOverdue (yard.step event).now scope then
      .deadlineExceeded else .cancelled := by
  have same : (yard.step event).now = yard.now := by
    rcases (kept.now_step event).2 with same | ticked
    · exact same
    · rw [ticked, Yard.step] at written
      obtain ⟨now, -, moved⟩ := advanceTo_eq yard (yard.step event).now
      rw [moved, silent] at written
      cases written
  rw [same]
  exact (kept.evolves event).fresh silent written

/-- A reason that is written down was written down once, and says whether the deadline had passed by
then. -/
theorem Kept.exists_written (kept : start.Kept) {reason : EndReason}
    (silent : start.scopes.written? scope = none)
    (written : (start.after history).scopes.written? scope = some reason) :
    ∃ first, first <+: history ∧ (start.after first).scopes.written? scope = some reason ∧
      reason = (if (start.after first).scopes.isOverdue (start.after first).now scope then
        .deadlineExceeded else .cancelled) ∧
      ∀ before, before <+: first → before ≠ first →
        (start.after before).scopes.written? scope = none := by
  induction history using List.reverseRecOn with
  | nil =>
    rw [after_nil, silent] at written
    cases written
  | append_singleton earlier event inductionHypothesis =>
    cases known : (start.after earlier).scopes.written? scope with
    | some former =>
      have lasting := (kept.after earlier).written_after known [event]
      rw [← after_append, written] at lasting
      cases lasting
      obtain ⟨first, within, dated⟩ := inductionHypothesis known
      exact ⟨first, within.trans (List.prefix_append _ _), dated⟩
    | none =>
      refine ⟨earlier ++ [event], List.prefix_rfl, written, ?_, fun before within apart => ?_⟩
      · rw [after_concat] at written ⊢
        exact (kept.after earlier).reason_of_fresh known written
      · obtain ⟨rest, rfl⟩ := (List.prefix_concat_iff.mp within).resolve_left apart
        refine Option.eq_none_iff_forall_ne_some.mpr fun other former => ?_
        have lasting := (kept.after before).written_after former rest
        rw [← after_append, known] at lasting
        cases lasting

/-! ### Why a scope has ended -/

section

variable {options : Options} (opened : openNoted? options = .ok start)

include opened

/-- What is written down is true, and at the opening nothing is. -/
theorem honest_of_opened (history : List (Event Body)) :
    (start.after history).scopes.Honest (start.after history).now := by
  refine (kept_openNoted? opened).1.honest_after ?_ history
  obtain ⟨slots, -, rfl⟩ := openNoted?_eq opened
  exact fun _ _ none => by cases none

theorem isCancelled_iff_of_opened (history : List (Event Body)) (scope : ScopeId) :
    (start.after history).scopes.isCancelled scope = true ↔
      ∃ first, (start.cancellations history scope).head? = some first := by
  have unmarked : ∀ other, start.scopes.isMarked other = false := fun other => by
    obtain ⟨slots, -, rfl⟩ := openNoted?_eq opened
    rfl
  rw [Scopes.isCancelled_eq_any, List.any_eq_true, ← Option.isSome_iff_exists,
    List.isSome_head?, cancellations, ne_eq, List.map_eq_nil_iff, List.filter_eq_nil_iff]
  simp only [(kept_openNoted? opened).1.isMarked_after (unmarked _), decide_eq_true_eq,
    not_forall, not_not]
  exact ⟨fun ⟨other, within, moment, listed⟩ => ⟨(moment, other), listed, within⟩,
    fun ⟨entry, listed, within⟩ => ⟨entry.2, within, entry.1, listed⟩⟩

/-- A scope that there is keeps its first cancellation. -/
theorem head?_cancellations_append {earlier : List (Event Body)} {first : Duration}
    (known : (start.after earlier).scopes.Knows scope)
    (cancelled : (start.cancellations earlier scope).head? = some first)
    (later : List (Event Body)) :
    (start.cancellations (earlier ++ later) scope).head? = some first := by
  have kept := (kept_openNoted? opened).1.after earlier
  unfold cancellations at cancelled ⊢
  rw [after_append, (kept.place_after known later).2, chronicle_append, List.filter_append,
    List.map_append, List.head?_append, cancelled, Option.some_or]

/-- What somebody hears who asks after a history why a scope has ended: the reason that is due, or,
if the cancellation was overlooked, that the deadline has passed. -/
structure Tells (start : Yard Body) (history : List (Event Body)) (scope : ScopeId) : Prop where
  inTime : ¬start.IsOverlooked history scope →
    start.heard? history scope = start.due? history scope
  late : start.IsOverlooked history scope →
    start.due? history scope = some .cancelled ∧
      start.heard? history scope = some .deadlineExceeded

/-- If a scope has a deadline that has passed and that nobody asked before, everybody hears of the
deadline, whatever came first. -/
theorem tells_of_deadline {deadline : Duration}
    (heard : start.heard? history scope = some .deadlineExceeded)
    (known : (start.after history).scopes.deadline? scope = some deadline)
    (past : deadline ≤ (start.after history).now)
    (silent : ∀ earlier, earlier <+: history → (start.after earlier).now < deadline →
      (start.after earlier).scopes.written? scope = none) : start.Tells history scope where
  inTime fair := by
    rw [heard, due?, known, EndReason.due?_of_late past]
    exact fun first cancelled early => fair ⟨first, deadline, cancelled, known, early, past, silent⟩
  late overlooked := by
    obtain ⟨first, moment, cancelled, same, early, -⟩ := overlooked
    have kept := (kept_openNoted? opened).1
    refine ⟨?_, heard⟩
    rw [due?, cancelled, EndReason.due?_of_early (kept.le_now_of_mem (List.mem_of_head? cancelled))]
    exact fun other also => Option.some.inj (same.symm.trans also) ▸ early

/-- If nothing was written down, whoever asks finds out. -/
theorem tells_of_silent (silent : (start.after history).scopes.written? scope = none) :
    start.Tells history scope := by
  have kept := (kept_openNoted? opened).1
  have heard := start.heard?_eq_ended? history scope
  rw [ended?, Scopes.ended?_of_silent silent] at heard
  by_cases overdue : (start.after history).scopes.isOverdue (start.after history).now scope = true
  · obtain ⟨deadline, known, past⟩ := Scopes.isOverdue_iff.mp overdue
    rw [if_pos overdue] at heard
    refine tells_of_deadline opened heard known past fun earlier within _ => ?_
    obtain ⟨later, rfl⟩ := within
    refine Option.eq_none_iff_forall_ne_some.mpr fun reason written => ?_
    rw [after_append, (kept.after earlier).written_after written later] at silent
    cases silent
  · rw [if_neg overdue] at heard
    have ahead : ∀ deadline, (start.after history).scopes.deadline? scope = some deadline →
        ¬deadline ≤ (start.after history).now := fun deadline known past =>
      overdue (Scopes.isOverdue_iff.mpr ⟨deadline, known, past⟩)
    refine ⟨fun _ => ?_, fun ⟨_, deadline, _, known, _, past, _⟩ => absurd past (ahead _ known)⟩
    rw [heard, due?]
    cases cancelled : (start.cancellations history scope).head? with
    | none =>
      have uncancelled : ¬(start.after history).scopes.isCancelled scope = true := fun was => by
        obtain ⟨first, found⟩ := (isCancelled_iff_of_opened opened history scope).mp was
        rw [cancelled] at found
        cases found
      rw [if_neg uncancelled, EndReason.due?_of_going ahead]
    | some first =>
      have was := (isCancelled_iff_of_opened opened history scope).mpr ⟨first, cancelled⟩
      have past := kept.le_now_of_mem (List.mem_of_head? cancelled)
      rw [if_pos was, EndReason.due?_of_early past]
      exact fun deadline known =>
        Nat.lt_of_le_of_lt past (Duration.not_le.mp (ahead deadline known))

/-- If a reason was written down, everybody hears of it. -/
theorem tells_of_written {reason : EndReason}
    (written : (start.after history).scopes.written? scope = some reason) :
    start.Tells history scope := by
  have kept := (kept_openNoted? opened).1
  have unwritten : start.scopes.written? scope = none := by
    obtain ⟨slots, -, rfl⟩ := openNoted?_eq opened
    rfl
  have heard : start.heard? history scope = some reason := by
    rw [heard?_eq_ended?, ended?, Scopes.ended?_of_written written]
  obtain ⟨first, ⟨later, rfl⟩, writtenThen, dated, silent⟩ :=
    kept.exists_written unwritten written
  have known : (start.after first).scopes.Knows scope :=
    Scopes.knows_of_find? (Scopes.record?_of_written writtenThen)
  obtain ⟨sameDeadline, -⟩ := (kept.after first).place_after known later
  rw [← after_append] at sameDeadline
  by_cases overdue : (start.after first).scopes.isOverdue (start.after first).now scope = true
  · obtain ⟨deadline, due, past⟩ := Scopes.isOverdue_iff.mp overdue
    rw [if_pos overdue] at dated
    have passed : deadline ≤ (start.after (first ++ later)).now := by
      rw [after_append]
      exact Nat.le_trans past ((kept.after first).now_le_after later)
    refine tells_of_deadline opened (dated ▸ heard) (sameDeadline.trans due) passed
      fun earlier within ahead => ?_
    -- The clock was still before the deadline, so this was before anything was written down.
    rcases List.prefix_or_prefix_of_prefix within (List.prefix_append first later) with
      before | ⟨rest, rfl⟩
    · refine silent earlier before fun same => ?_
      exact absurd past (Nat.not_le_of_lt (same ▸ ahead))
    · rw [after_append] at ahead
      exact absurd (Nat.le_trans past ((kept.after first).now_le_after rest))
        (Nat.not_le_of_lt ahead)
  · rw [if_neg overdue] at dated
    have ahead : ∀ deadline, (start.after (first ++ later)).scopes.deadline? scope = some deadline →
        (start.after first).now < deadline := fun deadline due =>
      Duration.not_le.mp fun past =>
        overdue (Scopes.isOverdue_iff.mpr ⟨deadline, sameDeadline.symm.trans due, past⟩)
    refine ⟨fun _ => ?_, fun ⟨_, deadline, _, due, _, _, silentThen⟩ => ?_⟩
    · have was :=
        (honest_of_opened opened first scope reason writtenThen).resolve_left overdue
      obtain ⟨moment, cancelled⟩ := (isCancelled_iff_of_opened opened first scope).mp was
      have past := kept.le_now_of_mem (List.mem_of_head? cancelled)
      rw [heard, due?, head?_cancellations_append opened known cancelled later, dated,
        EndReason.due?_of_early]
      · rw [after_append]
        exact Nat.le_trans past ((kept.after first).now_le_after later)
      · exact fun deadline due => Nat.lt_of_le_of_lt past (ahead deadline due)
    · rw [silentThen first (List.prefix_append _ _) (ahead deadline due)] at writtenThen
      cases writtenThen

theorem tells (history : List (Event Body)) (scope : ScopeId) : start.Tells history scope := by
  cases written : (start.after history).scopes.written? scope with
  | none => exact tells_of_silent opened written
  | some reason => exact tells_of_written opened written

end

/-! ### Two histories -/

/-- Two yards of which the clock and the scopes, but for what was written down, are the same. -/
structure Alike (yard other : Yard Body) : Prop where
  now : yard.now = other.now
  bare : yard.scopes.bare = other.scopes.bare

variable {other : Yard Body}

theorem Alike.deadline? (alike : yard.Alike other) (scope : ScopeId) :
    yard.scopes.deadline? scope = other.scopes.deadline? scope := by
  rw [← Scopes.deadline?_bare, alike.bare, Scopes.deadline?_bare]

theorem Alike.lineage (alike : yard.Alike other) (scope : ScopeId) :
    yard.scopes.lineage scope = other.scopes.lineage scope := by
  rw [← Scopes.lineage_bare, alike.bare, Scopes.lineage_bare]

theorem Alike.isSome_record? (alike : yard.Alike other) (scope : ScopeId) :
    (yard.scopes.record? scope).isSome = (other.scopes.record? scope).isSome := by
  rw [← Option.isSome_map (f := ScopeRecord.bare), ← Scopes.record?_bare, alike.bare,
    Scopes.record?_bare, Option.isSome_map]

/-- An event that neither moves the clock nor opens or cancels a scope changes nothing of that. -/
theorem Kept.alike_step (kept : yard.Kept) {event : Event Body} (plain : event.movesEnds = false) :
    (yard.step event).Alike yard ∧ yard.cancelling event = [] := by
  refine ⟨⟨(kept.now_step event).2.resolve_right fun ticked => ?_, (kept.asked plain).bare⟩, ?_⟩
  · rw [ticked] at plain
    cases plain
  · cases event with
    | cancel other => cases plain
    | _ => rfl

theorem Alike.openScope (alike : yard.Alike other) (descent : Descent) :
    (yard.openScope descent).2.Alike (other.openScope descent).2 := by
  refine ⟨alike.now, ?_⟩
  cases descent with
  | root => exact congrArg (fun scopes : Scopes => (scopes.add none none).2) alike.bare
  | rootBefore deadline =>
    exact congrArg (fun scopes : Scopes => (scopes.add none (some deadline)).2) alike.bare
  | child parent =>
    simp only [Yard.openScope, Scopes.child, Scopes.bare_add, alike.bare, alike.deadline?]
  | childBefore parent deadline =>
    simp only [Yard.openScope, Scopes.childBefore, Scopes.bare_add, alike.bare, alike.deadline?]

theorem Alike.cancel (alike : yard.Alike other) (scope : ScopeId) :
    (yard.cancel scope).Alike (other.cancel scope) ∧
      yard.cancelling (.cancel scope) = other.cancelling (.cancel scope) := by
  refine ⟨⟨alike.now, ?_⟩, ?_⟩
  · simp only [Yard.cancel, Scopes.bare_cancel, alike.bare]
  · simp only [cancelling, alike.isSome_record? scope, alike.now]

/-- Yards that are alike stay so if what can end a scope happens to both, whatever else does. -/
theorem Alike.after (alike : yard.Alike other) (kept : yard.Kept) (history : List (Event Body)) :
    (yard.after history).Alike (other.after (history.filter Event.movesEnds)) ∧
      yard.chronicle cancelling history =
        other.chronicle cancelling (history.filter Event.movesEnds) := by
  induction history generalizing yard other with
  | nil => exact ⟨alike, rfl⟩
  | cons event rest inductionHypothesis =>
    rw [chronicle, after_cons]
    cases moves : event.movesEnds with
    | false =>
      obtain ⟨⟨now, bare⟩, nothing⟩ := kept.alike_step moves
      rw [List.filter_cons_of_neg (by simp [moves]), nothing]
      exact inductionHypothesis ⟨now.trans alike.now, bare.trans alike.bare⟩ (kept.step event)
    | true =>
      have moved : (yard.step event).Alike (other.step event) ∧
          yard.cancelling event = other.cancelling event := by
        cases event with
        | tick moment =>
          refine ⟨?_, rfl⟩
          simp only [Yard.step, advanceTo, alike.now]
          split
          · exact ⟨rfl, alike.bare⟩
          · exact alike
        | openScope descent => exact ⟨alike.openScope descent, rfl⟩
        | cancel scope => exact alike.cancel scope
        | _ => cases moves
      obtain ⟨stay, same⟩ := inductionHypothesis moved.1 (kept.step event)
      rw [List.filter_cons_of_pos moves, after_cons, chronicle, moved.2, same]
      exact ⟨stay, rfl⟩

/-- What is due depends on what can end a scope, and on nothing else that happens. -/
theorem Kept.due?_congr (kept : start.Kept) {first second : List (Event Body)}
    (same : first.filter Event.movesEnds = second.filter Event.movesEnds) (scope : ScopeId) :
    start.due? first scope = start.due? second scope := by
  have filtered : ∀ history, start.due? history scope =
      start.due? (history.filter Event.movesEnds) scope := fun history => by
    have alike : start.Alike start := ⟨rfl, rfl⟩
    obtain ⟨stay, chronicle⟩ := alike.after kept history
    rw [due?, cancellations, stay.now, stay.deadline?, stay.lineage, chronicle]
    rfl
  rw [filtered, same, ← filtered]

/-- The reason that is due is what everybody hears, unless the cancellation was overlooked; and two
histories with the same clock, scopes and cancellations differ in what is heard only if it was
overlooked in one of them. -/
theorem heard?_eq_due?_iff {options : Options} (opened : openNoted? options = .ok start)
    (history : List (Event Body)) (scope : ScopeId) :
    (start.heard? history scope = start.due? history scope ↔
      ¬start.IsOverlooked history scope) ∧
    (start.IsOverlooked history scope → start.due? history scope = some .cancelled ∧
      start.heard? history scope = some .deadlineExceeded) ∧
    ∀ other : List (Event Body),
      other.filter Event.movesEnds = history.filter Event.movesEnds →
      start.due? other scope = start.due? history scope ∧
      (start.heard? other scope).isSome = (start.heard? history scope).isSome ∧
      (start.heard? other scope = start.heard? history scope ↔
        (start.IsOverlooked other scope ↔ start.IsOverlooked history scope)) := by
  obtain ⟨inTime, late⟩ := tells opened history scope
  refine ⟨⟨fun same overlooked => ?_, inTime⟩, late, fun other same => ?_⟩
  · rw [(late overlooked).1, (late overlooked).2] at same
    cases same
  · have due := (kept_openNoted? opened).1.due?_congr same scope
    obtain ⟨otherInTime, otherLate⟩ := tells opened other scope
    refine ⟨due, ?_⟩
    by_cases here : start.IsOverlooked history scope <;>
      by_cases there : start.IsOverlooked other scope
    · rw [(late here).2, (otherLate there).2]
      exact ⟨rfl, iff_of_true rfl (iff_of_true there here)⟩
    · rw [(late here).2, otherInTime there, due, (late here).1]
      exact ⟨rfl, iff_of_false (by simp) fun both => there (both.mpr here)⟩
    · rw [inTime here, (otherLate there).2, ← due, (otherLate there).1]
      exact ⟨rfl, iff_of_false (by simp) fun both => here (both.mp there)⟩
    · rw [inTime here, otherInTime there, due]
      exact ⟨rfl, iff_of_true rfl (iff_of_false there here)⟩

/-- A scope is cancelled from above, and then its deadline passes. -/
def unasked : List (Event Unit) :=
  [.openScope .root, .openScope (.childBefore ⟨1⟩ (.ofMillis 10)), .cancel ⟨1⟩,
    .tick (.ofMillis 10)]

/-- The same, and somebody asks in between. -/
def asked : List (Event Unit) :=
  [.openScope .root, .openScope (.childBefore ⟨1⟩ (.ofMillis 10)), .cancel ⟨1⟩, .query ⟨2⟩,
    .tick (.ofMillis 10)]

/-- What is heard may depend on whether somebody asked before. -/
theorem exists_heard?_ne_due? : ∃ start : Yard Unit, openNoted? (.ofCapacity 1) = .ok start ∧
    unasked.filter Event.movesEnds = asked.filter Event.movesEnds ∧
    start.due? unasked ⟨2⟩ = some .cancelled ∧
    start.heard? asked ⟨2⟩ = some .cancelled ∧
    start.heard? unasked ⟨2⟩ = some .deadlineExceeded :=
  ⟨_, rfl, rfl, rfl, rfl, rfl⟩

/-- The cancellation was overlooked by those who did not ask. -/
theorem heard?_eq_due?_iff_unasked : ∃ start : Yard Unit,
    openNoted? (.ofCapacity 1) = .ok start ∧
    unasked.filter Event.movesEnds = asked.filter Event.movesEnds ∧
    start.IsOverlooked unasked ⟨2⟩ ∧ ¬start.IsOverlooked asked ⟨2⟩ := by
  have run : ∃ start : Yard Unit, openNoted? (.ofCapacity 1) = .ok start ∧
      start.heard? asked ⟨2⟩ = start.due? asked ⟨2⟩ ∧
      start.heard? unasked ⟨2⟩ ≠ start.heard? asked ⟨2⟩ := by
    refine ⟨_, rfl, rfl, fun same => ?_⟩
    cases same
  obtain ⟨start, opened, inTime, apart⟩ := run
  obtain ⟨fair, -, others⟩ := heard?_eq_due?_iff opened asked ⟨2⟩
  have heeded := fair.mp inTime
  obtain ⟨-, -, alike⟩ := others unasked rfl
  refine ⟨start, opened, rfl, ?_, heeded⟩
  by_contra missed
  exact apart (alike.mpr (iff_of_false missed heeded))

end Yard

end Taskyard

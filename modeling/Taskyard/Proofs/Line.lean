/-
This file says in which order those that wait for a slot are served. They stand
in one line: first those that were handed a slot and have not come back for it,
then the queue. A slot that is handed on only moves the border between the two;
whoever goes away leaves the line where it stands, and whoever joins does so at
the end. So nobody gets past anybody else.
-/

import Mathlib.Data.List.TakeWhile
import Taskyard.Proofs.Slots

namespace Taskyard

/-- What may become of a line when one caller is dealt with: some leave it, and nobody but the
caller joins it, at the end. -/
def Advances (caller : Option CallId) (before later : List CallId) : Prop :=
  ∃ stayed joined, later = stayed ++ joined ∧ stayed.Sublist before ∧
    ∀ other ∈ joined, caller = some other

namespace Advances

variable {caller : Option CallId} {before between later : List CallId}

theorem of_sublist (sublist : later.Sublist before) : Advances caller before later :=
  ⟨later, [], (List.append_nil _).symm, sublist, List.forall_mem_nil _⟩

theorem trans (early : Advances caller before between) (late : Advances caller between later) :
    Advances caller before later := by
  obtain ⟨stayed, joined, rfl, sublist, own⟩ := early
  obtain ⟨stayedLater, joinedLater, rfl, sublistLater, ownLater⟩ := late
  obtain ⟨first, second, rfl, fromStayed, fromJoined⟩ := List.sublist_append_iff.mp sublistLater
  refine ⟨first, second ++ joinedLater, List.append_assoc .., fromStayed.trans sublist, ?_⟩
  exact List.forall_mem_append.mpr ⟨fun other member => own other (fromJoined.subset member),
    ownLater⟩

end Advances

/-- Those that stand before somebody in a line. -/
def aheadOf (call : CallId) (line : List CallId) : List CallId :=
  line.takeWhile fun other => other ≠ call

theorem mem_of_aheadOf {call other : CallId} {line : List CallId}
    (ahead : other ∈ aheadOf call line) : other ∈ line :=
  List.takeWhile_subset _ ahead

theorem ne_of_aheadOf {call other : CallId} {line : List CallId}
    (ahead : other ∈ aheadOf call line) : other ≠ call := by
  simpa using List.mem_takeWhile_imp ahead

theorem aheadOf_append {call : CallId} {line : List CallId} (member : call ∈ line)
    (more : List CallId) : aheadOf call (line ++ more) = aheadOf call line := by
  induction line with
  | nil => cases member
  | cons other rest inductionHypothesis =>
    by_cases here : other = call
    · simp [aheadOf, here]
    · have behind := (List.mem_cons.mp member).resolve_left (Ne.symm here)
      simpa [aheadOf, here] using inductionHypothesis behind

/-- When others leave the line nobody gets ahead. -/
theorem aheadOf_sublist {call : CallId} {before later : List CallId}
    (sublist : later.Sublist before) (distinct : before.Nodup) (member : call ∈ later) :
    (aheadOf call later).Sublist (aheadOf call before) := by
  induction sublist with
  | slnil => cases member
  | @cons later before other sublist inductionHypothesis =>
    obtain ⟨fresh, distinctRest⟩ := List.nodup_cons.mp distinct
    have apart : other ≠ call := fun same => fresh (same ▸ sublist.subset member)
    have shrinks := inductionHypothesis distinctRest member
    simp only [aheadOf, ne_eq, apart, not_false_eq_true, decide_true, List.takeWhile_cons_of_pos]
    exact shrinks.cons other
  | @cons_cons later before other sublist inductionHypothesis =>
    by_cases here : other = call
    · simp [aheadOf, here]
    · have behind := (List.mem_cons.mp member).resolve_left (Ne.symm here)
      have shrinks := inductionHypothesis (List.nodup_cons.mp distinct).2 behind
      simp only [aheadOf, ne_eq, here, not_false_eq_true, decide_true, List.takeWhile_cons_of_pos]
      exact shrinks.cons_cons other

/-- Nobody who stays in the line is got past, except by an own second turn. -/
theorem Advances.aheadOf {caller : Option CallId} {before later : List CallId} {call : CallId}
    (advances : Advances caller before later) (distinct : before.Nodup) (member : call ∈ later)
    (other : caller ≠ some call) :
    (Taskyard.aheadOf call later).Sublist (Taskyard.aheadOf call before) := by
  obtain ⟨stayed, joined, rfl, sublist, own⟩ := advances
  have stays : call ∈ stayed :=
    (List.mem_append.mp member).resolve_right fun joins => other (own call joins)
  rw [aheadOf_append stays]
  exact aheadOf_sublist sublist distinct stays

/-- Of two that stand in a line one is not ahead of the other. -/
theorem not_mem_aheadOf {first second : CallId} {line : List CallId} (distinct : line.Nodup)
    (ahead : first ∈ aheadOf second line) : second ∉ aheadOf first line := by
  induction line with
  | nil => cases ahead
  | cons other rest inductionHypothesis =>
    obtain ⟨fresh, distinctRest⟩ := List.nodup_cons.mp distinct
    by_cases last : other = second
    · simp [aheadOf, last] at ahead
    · by_cases here : other = first
      · simp [aheadOf, here]
      · simp only [aheadOf, ne_eq, last, here, not_false_eq_true, decide_true,
          List.takeWhile_cons_of_pos, List.mem_cons, not_or] at ahead ⊢
        exact ⟨Ne.symm last,
          inductionHypothesis distinctRest (ahead.resolve_left (Ne.symm here))⟩

namespace Slots

/-- Everybody who waits, in the order in which they are served. -/
def line (slots : Slots) : List CallId := slots.granted ++ slots.queue

theorem mem_line {slots : Slots} {call : CallId} : call ∈ slots.line ↔ call ∈ slots.parked := by
  simp [line, parked, or_comm]

theorem Sound.nodup_line {slots : Slots} (sound : slots.Sound) : slots.line.Nodup :=
  List.perm_append_comm.nodup_iff.mp sound.distinct

/-- A slot that comes back moves nobody in the line. -/
theorem line_giveBack (slots : Slots) : slots.giveBack.line = slots.line := by
  unfold giveBack
  split
  · next known => simp [line, known]
  · rfl

theorem line_withdraw (slots : Slots) (call : CallId) :
    (slots.withdraw call).line = slots.line.erase call := by
  unfold withdraw
  split
  · next handed =>
    rw [line_giveBack, line, line, List.erase_append_left _ handed]
    rfl
  · next unhanded =>
    split
    · rw [line, line, List.erase_append_right _ unhanded]
      rfl
    · next unqueued =>
      rw [List.erase_of_not_mem (by simp [line, unhanded, unqueued])]

theorem line_leave (slots : Slots) : slots.leave.line = slots.line := line_giveBack _

theorem advances_withdraw (slots : Slots) (call : CallId) :
    Advances (some call) slots.line (slots.withdraw call).line := by
  rw [line_withdraw]
  exact .of_sublist List.erase_sublist

/-- Whoever asks joins the line at the end, or goes on from it. -/
theorem advances_turn (slots : Slots) (call : CallId) (queued : Bool) :
    Advances (some call) slots.line (slots.turn call queued).2.line := by
  cases queued with
  | false =>
    simp only [turn, Bool.false_eq_true, if_false]
    rcases ask_cases slots call with ⟨error, told⟩ | ⟨-, -, told⟩ | ⟨-, -, told⟩ <;> rw [told]
    · exact .of_sublist (List.Sublist.refl _)
    · exact .of_sublist (List.Sublist.refl _)
    · exact ⟨slots.line, [call], (List.append_assoc ..).symm, List.Sublist.refl _,
        fun other member => (List.mem_singleton.mp member).symm ▸ rfl⟩
  | true =>
    simp only [turn, if_true]
    rcases askAgain_cases slots call with ⟨-, told⟩ | ⟨-, handed, told⟩ | ⟨-, -, told⟩ <;> rw [told]
    · exact slots.advances_withdraw call
    · exact .of_sublist (List.erase_sublist.append_right slots.queue)
    · exact .of_sublist (List.Sublist.refl _)

/-- Whoever was handed a slot is ahead of everybody in the queue. -/
theorem Sound.aheadOf_line {slots : Slots} (sound : slots.Sound) {call : CallId}
    (queued : call ∈ slots.queue) :
    aheadOf call slots.line = slots.granted ++ aheadOf call slots.queue := by
  have apart : ∀ first ∈ slots.granted, decide (first ≠ call) = true := by
    intro first member
    refine decide_eq_true fun same => ?_
    exact List.disjoint_of_nodup_append sound.distinct queued (same ▸ member)
  rw [aheadOf, line, List.takeWhile_append_of_pos apart]
  rfl

/-- The first in the queue is ahead of everybody else in it. -/
theorem Sound.head_aheadOf {slots : Slots} (sound : slots.Sound) {call first : CallId}
    (queued : call ∈ slots.queue) (head : slots.queue.head? = some first) :
    first ∈ aheadOf call slots.line ∨ first = call := by
  by_cases same : first = call
  · exact .inr same
  · obtain ⟨rest, known⟩ := List.head?_eq_some_iff.mp head
    rw [sound.aheadOf_line queued, known]
    exact .inl (List.mem_append_right _ (by simp [aheadOf, same]))

/-! ### Handing slots on -/

/-- A slot that comes back is handed to the first in the queue, if to anybody. -/
theorem mem_granted_giveBack {slots : Slots} {call : CallId}
    (handed : call ∈ slots.giveBack.granted) :
    call ∈ slots.granted ∨ slots.queue.head? = some call := by
  unfold giveBack at handed
  split at handed
  · next known =>
    refine (List.mem_append.mp handed).imp_right fun last => ?_
    rw [known, List.head?_cons, List.mem_singleton.mp last]
  · exact .inl handed

theorem mem_granted_leave {slots : Slots} {call : CallId} (handed : call ∈ slots.leave.granted) :
    call ∈ slots.granted ∨ slots.queue.head? = some call :=
  @mem_granted_giveBack { slots with running := slots.running - 1 } call handed

theorem mem_granted_withdraw {slots : Slots} {call other : CallId}
    (handed : other ∈ (slots.withdraw call).granted) :
    other ∈ slots.granted ∨ slots.queue.head? = some other := by
  unfold withdraw at handed
  split at handed
  · exact (mem_granted_giveBack handed).imp_left List.mem_of_mem_erase
  · split at handed <;> exact .inl handed

/-- The slot of somebody who goes away without having come back for it is handed to the one that
has waited longest. -/
theorem withdraw_of_granted {slots : Slots} {call next : CallId} {rest : List CallId}
    (opened : slots.closed = false) (handed : call ∈ slots.granted)
    (waits : slots.queue = next :: rest) :
    (slots.withdraw call).granted = slots.granted.erase call ++ [next] ∧
      (slots.withdraw call).queue = rest := by
  rw [withdraw, if_pos handed, giveBack]
  simp [exit, opened, waits]

/-- Nobody is handed a slot because somebody asks. -/
theorem granted_turn (slots : Slots) (call : CallId) (queued : Bool) :
    (slots.turn call queued).2.granted ⊆ slots.granted := by
  cases queued with
  | false =>
    simp only [turn, Bool.false_eq_true, if_false]
    rcases ask_cases slots call with ⟨error, told⟩ | ⟨-, -, told⟩ | ⟨-, -, told⟩ <;> rw [told] <;>
      exact List.Subset.refl _
  | true =>
    simp only [turn, if_true]
    rcases askAgain_cases slots call with ⟨closed, told⟩ | ⟨-, -, told⟩ | ⟨-, -, told⟩ <;> rw [told]
    · unfold withdraw
      split
      · simp only [giveBack, exit, closed]
        exact List.erase_subset
      · split <;> exact List.Subset.refl _
    · exact List.erase_subset
    · exact List.Subset.refl _

/-! ### Slots that nobody can take -/

/-- Whether nobody who asks at this moment gets a slot. -/
def IsSpent (slots : Slots) : Prop := slots.closed = true ∨ slots.free = 0

theorem Sound.isSpent {slots : Slots} (sound : slots.Sound) (waiting : slots.queue ≠ []) :
    slots.IsSpent := by
  cases closed : slots.closed with
  | true => exact .inl closed
  | false => exact .inr (sound.fair closed waiting)

/-- Whoever asks for the first time gets none where there is none to take. -/
theorem IsSpent.ask {slots : Slots} (spent : slots.IsSpent) (call : CallId) :
    (slots.ask call).1 ≠ .admitted ∧ (slots.ask call).2.IsSpent := by
  rcases ask_cases slots call with ⟨error, told⟩ | ⟨opened, atHand, -⟩ | ⟨-, none, told⟩
  · rw [told]
    exact ⟨by simp, spent⟩
  · rcases spent with closed | none
    · rw [closed] at opened
      cases opened
    · exact absurd atHand (Nat.not_lt_of_le (Nat.le_of_eq none))
  · rw [told]
    exact ⟨by simp, .inr none⟩

theorem IsSpent.turn {slots : Slots} (spent : slots.IsSpent) (call : CallId) (queued : Bool) :
    (slots.turn call queued).2.IsSpent := by
  cases queued with
  | false => exact (spent.ask call).2
  | true =>
    simp only [Slots.turn, if_true]
    rcases askAgain_cases slots call with ⟨closed, told⟩ | ⟨-, -, told⟩ | ⟨-, -, told⟩ <;> rw [told]
    · exact .inl ((slots.withdraw_frame call).2.1.trans closed)
    · exact spent
    · exact spent

/-- Only somebody to whom a slot was handed gets one where there is none to take. -/
theorem IsSpent.not_admitted {slots : Slots} {call : CallId} {queued : Bool}
    (spent : slots.IsSpent) (unhanded : queued = true → call ∉ slots.granted) :
    (slots.turn call queued).1 ≠ .admitted := by
  cases queued with
  | false => exact (spent.ask call).1
  | true =>
    simp only [Slots.turn, if_true]
    rcases askAgain_cases slots call with ⟨-, told⟩ | ⟨-, handed, -⟩ | ⟨-, -, told⟩
    · simp [told]
    · exact absurd handed (unhanded rfl)
    · simp [told]

end Slots

end Taskyard

/-
This file says what holds of slots however they are used. No slot is lost and
none appears, the count of those that wait is right, nobody waits twice, and no
slot lies at hand while somebody waits for one. Every use of the slots keeps all
of that. What else a submitter has to know of an answer is in `Heard`: who waits
afterwards and how many bodies have a slot. Nothing outside this file looks at
how the answer came about.
-/

import Mathlib.Data.List.Nodup
import Taskyard.Slots

namespace Taskyard

namespace Slots

/-- Everybody who waits: in the queue, or handed a slot and not back yet. -/
def parked (slots : Slots) : List CallId := slots.queue ++ slots.granted

/-- What holds of slots however they are used. -/
structure Sound (slots : Slots) : Prop where
  conserved : slots.places = slots.capacity
  counted : slots.waiting = slots.parked.length
  distinct : slots.parked.Nodup
  /-- No slot lies at hand while somebody is in the queue. -/
  fair : slots.closed = false → slots.queue ≠ [] → slots.free = 0

theorem sound_open? {options : Options} {slots : Slots} (opened : open? options = .ok slots) :
    slots.Sound ∧ slots.capacity = options.capacity := by
  have places := places_open? opened
  unfold open? at opened
  split at opened
  · cases opened
  · cases opened
    exact ⟨⟨places, rfl, List.nodup_nil, fun _ waiting => absurd rfl waiting⟩, rfl⟩

/-! ### A slot that comes back -/

/-- A slot that comes back changes nothing about who waits. -/
theorem parked_giveBack (slots : Slots) : slots.giveBack.parked.Perm slots.parked := by
  unfold giveBack
  split
  · next call queue _ known =>
    simp only [parked, known]
    calc queue ++ (slots.granted ++ [call])
      _ = (queue ++ slots.granted) ++ [call] := (List.append_assoc ..).symm
      _ |>.Perm (call :: (queue ++ slots.granted)) := List.perm_append_singleton ..
  · exact List.Perm.refl _

/-- A slot that comes back goes to somebody or lies at hand; nothing else becomes of it. -/
theorem giveBack_frame (slots : Slots) :
    slots.giveBack.capacity = slots.capacity ∧ slots.giveBack.closed = slots.closed ∧
      slots.giveBack.running = slots.running := by
  unfold giveBack
  split <;> exact ⟨rfl, rfl, rfl⟩

/-- A slot that comes back where one was missing. -/
theorem Sound.giveBack {slots : Slots} (missing : slots.places + 1 = slots.capacity)
    (counted : slots.waiting = slots.parked.length) (distinct : slots.parked.Nodup)
    (fair : slots.closed = false → slots.queue ≠ [] → slots.free = 0) :
    slots.giveBack.Sound where
  conserved := by
    rw [places_giveBack, missing, (giveBack_frame slots).1]
  counted := by
    rw [(parked_giveBack slots).length_eq, ← counted]
    unfold Slots.giveBack
    split <;> rfl
  distinct := (parked_giveBack slots).nodup_iff.mpr distinct
  fair := by
    unfold Slots.giveBack
    split
    · next known => exact fun opened _ => fair opened (by simp [known])
    · next nobody =>
      -- Nothing is in the queue of slots that are open, or the slot would have gone there.
      intro opened waiting
      cases inQueue : slots.queue with
      | nil => exact absurd inQueue waiting
      | cons call queue => exact absurd inQueue (nobody call queue opened)

/-! ### Asking -/

/-- The three answers to a submitter that asks for the first time. -/
theorem ask_cases (slots : Slots) (call : CallId) :
    (∃ error, slots.ask call = (.refused error, slots)) ∨
    (slots.closed = false ∧ 0 < slots.free ∧ slots.ask call =
      (.admitted, { slots with free := slots.free - 1, running := slots.running + 1 })) ∨
    (slots.closed = false ∧ slots.free = 0 ∧ slots.ask call =
      (.queued, { slots with waiting := slots.waiting + 1, queue := slots.queue ++ [call] })) := by
  unfold ask
  by_cases closed : slots.closed = true
  · exact .inl ⟨_, if_pos closed⟩
  · rw [if_neg closed]
    have opened : slots.closed = false := Bool.eq_false_iff.mpr closed
    by_cases atHand : 0 < slots.free
    · exact .inr (.inl ⟨opened, atHand, if_pos atHand⟩)
    · rw [if_neg atHand]
      split
      · exact .inl ⟨_, rfl⟩
      · split
        · exact .inl ⟨_, rfl⟩
        · exact .inr (.inr ⟨opened, Nat.eq_zero_of_not_pos atHand, rfl⟩)

/-- What asking for a slot comes to. -/
structure Heard (slots : Slots) (call : CallId) (turn : Turn) (after : Slots) : Prop where
  sound : after.Sound
  capacity : after.capacity = slots.capacity
  closed : after.closed = slots.closed
  running : after.running = if turn = .admitted then slots.running + 1 else slots.running
  /-- Whoever was told to wait does. -/
  parked : call ∈ after.parked ↔ turn = .queued
  others : ∀ other, other ≠ call → (other ∈ after.parked ↔ other ∈ slots.parked)
  /-- Whoever was told to wait has nothing to come back for yet. -/
  news : turn = .queued → after.hasNews call = false

theorem heard_ask {slots : Slots} {call : CallId} (sound : slots.Sound)
    (absent : call ∉ slots.parked) : slots.Heard call (slots.ask call).1 (slots.ask call).2 := by
  have places := (places_ask slots call).trans sound.conserved
  rcases ask_cases slots call with ⟨error, told⟩ | ⟨opened, atHand, told⟩ | ⟨opened, none, told⟩ <;>
    rw [told] at places ⊢
  · exact ⟨sound, rfl, rfl, rfl, by simp [absent], fun _ _ => Iff.rfl, by simp⟩
  · exact {
      sound := ⟨places, sound.counted, sound.distinct, fun _ waiting =>
        absurd (sound.fair opened waiting) (Nat.ne_of_gt atHand)⟩
      capacity := rfl
      closed := rfl
      running := rfl
      parked := iff_of_false absent (by simp)
      others := fun _ _ => Iff.rfl
      news := by simp }
  · have unhanded : call ∉ slots.granted := fun member => absent (List.mem_append_right _ member)
    have joined : (slots.queue ++ [call] ++ slots.granted).Perm (call :: slots.parked) :=
      (List.perm_append_singleton call slots.queue).append_right slots.granted
    exact {
      sound := {
        conserved := places
        counted := (congrArg (· + 1) sound.counted).trans joined.length_eq.symm
        distinct := joined.nodup_iff.mpr (List.nodup_cons.mpr ⟨absent, sound.distinct⟩)
        fair := fun _ _ => none }
      capacity := rfl
      closed := rfl
      running := rfl
      parked := iff_of_true (joined.mem_iff.mpr List.mem_cons_self) rfl
      others := fun other apart => joined.mem_iff.trans (by simp [apart])
      news := fun _ => by simp [hasNews, opened, unhanded] }

/-! ### Going away -/

/-- Who waits after a submitter has gone away. -/
theorem parked_withdraw {slots : Slots} {call : CallId} (distinct : slots.parked.Nodup) :
    (slots.withdraw call).parked.Perm (slots.parked.erase call) := by
  unfold withdraw
  split
  · next handed =>
    have notQueued : call ∉ slots.queue := fun queued =>
      List.disjoint_of_nodup_append distinct queued handed
    refine (parked_giveBack _).trans ?_
    rw [parked, parked, List.erase_append_right _ notQueued]
    rfl
  · split
    · next queued =>
      rw [parked, parked, List.erase_append_left _ queued]
      rfl
    · next unhanded unqueued =>
      rw [List.erase_of_not_mem (by simp [parked, unhanded, unqueued])]

theorem mem_parked_withdraw {slots : Slots} {call : CallId} (distinct : slots.parked.Nodup)
    (other : CallId) :
    other ∈ (slots.withdraw call).parked ↔ other ≠ call ∧ other ∈ slots.parked :=
  (parked_withdraw distinct).mem_iff.trans distinct.mem_erase_iff

theorem Sound.withdraw {slots : Slots} (sound : slots.Sound) (call : CallId) :
    (slots.withdraw call).Sound := by
  have counted := sound.counted
  simp only [parked, List.length_append] at counted
  unfold Slots.withdraw
  split
  · next handed =>
    have positive := List.length_pos_of_mem handed
    have length := List.length_erase_of_mem handed
    refine Sound.giveBack ?_ ?_ ?_ ?_
    · have conserved := sound.conserved
      simp only [places, exit, length] at conserved ⊢
      omega
    · simp only [exit, parked, List.length_append, length]
      omega
    · exact sound.distinct.sublist ((List.erase_sublist).append_left slots.queue)
    · exact fun opened waiting => sound.fair opened waiting
  · split
    · next queued =>
      have positive := List.length_pos_of_mem queued
      exact {
        conserved := sound.conserved
        counted := by
          simp only [exit, parked, List.length_append, List.length_erase_of_mem queued]
          omega
        distinct := sound.distinct.sublist ((List.erase_sublist).append_right slots.granted)
        fair := fun opened _ => sound.fair opened (List.ne_nil_of_mem queued) }
    · exact sound

theorem withdraw_of_not_mem {slots : Slots} {call : CallId} (absent : call ∉ slots.parked) :
    slots.withdraw call = slots := by
  simp only [parked, List.mem_append, not_or] at absent
  rw [withdraw, if_neg absent.2, if_neg absent.1]

theorem withdraw_frame (slots : Slots) (call : CallId) :
    (slots.withdraw call).capacity = slots.capacity ∧
      (slots.withdraw call).closed = slots.closed ∧
      (slots.withdraw call).running = slots.running := by
  unfold withdraw
  split
  · exact giveBack_frame _
  · split <;> exact ⟨rfl, rfl, rfl⟩

/-! ### Asking again -/

/-- The three answers to a submitter that asks again. -/
theorem askAgain_cases (slots : Slots) (call : CallId) :
    (slots.closed = true ∧ slots.askAgain call = (.refused .closed, slots.withdraw call)) ∨
    (slots.closed = false ∧ call ∈ slots.granted ∧ slots.askAgain call =
      (.admitted, { slots with
        waiting := slots.waiting - 1
        granted := slots.granted.erase call
        running := slots.running + 1 })) ∨
    (slots.closed = false ∧ call ∉ slots.granted ∧ slots.askAgain call = (.queued, slots)) := by
  unfold askAgain
  cases closed : slots.closed with
  | true => exact .inl ⟨rfl, rfl⟩
  | false =>
    by_cases handed : call ∈ slots.granted
    · exact .inr (.inl ⟨rfl, handed, by simp [handed, exit, closed]⟩)
    · exact .inr (.inr ⟨rfl, handed, by simp [handed]⟩)

theorem heard_askAgain {slots : Slots} {call : CallId} (sound : slots.Sound)
    (present : call ∈ slots.parked) :
    slots.Heard call (slots.askAgain call).1 (slots.askAgain call).2 := by
  rcases askAgain_cases slots call with
    ⟨closed, told⟩ | ⟨opened, handed, told⟩ | ⟨opened, unhanded, told⟩ <;> rw [told]
  · obtain ⟨sameCapacity, stillClosed, sameRunning⟩ := withdraw_frame slots call
    exact {
      sound := sound.withdraw call
      capacity := sameCapacity
      closed := stillClosed
      running := sameRunning
      parked := by simp [mem_parked_withdraw sound.distinct]
      others := fun other apart => by simp [mem_parked_withdraw sound.distinct, apart]
      news := by simp }
  · have positive := List.length_pos_of_mem handed
    have length := List.length_erase_of_mem handed
    have notQueued : call ∉ slots.queue := fun queued =>
      List.disjoint_of_nodup_append sound.distinct queued handed
    have conserved := sound.conserved
    have counted := sound.counted
    have parked : slots.queue ++ slots.granted.erase call = slots.parked.erase call :=
      (List.erase_append_right _ notQueued).symm
    exact {
      sound := {
        conserved := by
          simp only [places, length] at conserved ⊢
          omega
        counted := by
          simp only [Slots.parked, List.length_append, length] at counted ⊢
          omega
        distinct := by
          rw [Slots.parked, parked]
          exact sound.distinct.erase call
        fair := sound.fair }
      capacity := rfl
      closed := rfl
      running := rfl
      parked := by
        rw [Slots.parked, parked, sound.distinct.mem_erase_iff]
        simp
      others := fun other apart => by
        rw [Slots.parked, parked, sound.distinct.mem_erase_iff]
        simp [apart]
      news := by simp }
  · exact ⟨sound, rfl, rfl, rfl, iff_of_true present rfl, fun _ _ => Iff.rfl,
      fun _ => by simp [hasNews, opened, unhanded]⟩

/-- Asking, for the first time by somebody who does not wait, or again by somebody who does. -/
theorem heard_turn {slots : Slots} {call : CallId} {queued : Bool} (sound : slots.Sound)
    (known : call ∈ slots.parked ↔ queued = true) :
    slots.Heard call (slots.turn call queued).1 (slots.turn call queued).2 := by
  cases queued with
  | false => exact heard_ask sound (by simpa using known)
  | true => exact heard_askAgain sound (known.mpr rfl)

/-! ### Leaving and closing -/

theorem Sound.leave {slots : Slots} (sound : slots.Sound) (busy : 0 < slots.running) :
    slots.leave.Sound := by
  refine Sound.giveBack ?_ sound.counted sound.distinct sound.fair
  have conserved := sound.conserved
  simp only [places] at conserved ⊢
  omega

theorem Sound.close {slots : Slots} (sound : slots.Sound) : slots.close.Sound :=
  ⟨sound.conserved, sound.counted, sound.distinct, fun opened => by cases opened⟩

theorem mem_parked_leave (slots : Slots) (call : CallId) :
    call ∈ slots.leave.parked ↔ call ∈ slots.parked :=
  (parked_giveBack { slots with running := slots.running - 1 }).mem_iff

theorem leave_frame (slots : Slots) :
    slots.leave.capacity = slots.capacity ∧ slots.leave.closed = slots.closed ∧
      slots.leave.running = slots.running - 1 :=
  giveBack_frame { slots with running := slots.running - 1 }

end Slots

end Taskyard

/-
This file holds the slots of a pool: how many bodies may run at a time, who has
a slot, and who waits for one. A slot that becomes free goes to the submitter
that has waited longest; only when nobody waits does it lie at hand for the next
one to ask. Once the slots are closed nobody gets one any more, not even a
submitter to whom one was handed but that has not come back for it.
-/

import Taskyard.Options
import Taskyard.Error

namespace Taskyard

/-- An operation under way, known by its serial number. -/
@[ext]
structure CallId where
  serial : Nat
deriving DecidableEq, Repr

/-- The slots of a pool. -/
structure Slots where
  capacity : Nat
  nonblocking : Bool
  queueLimit : Nat
  /-- Slots at hand. -/
  free : Nat
  /-- Bodies that have a slot. -/
  running : Nat
  /-- How many submitters wait, those included that have not come back for their slot. -/
  waiting : Nat
  /-- Submitters that wait for a slot, the oldest first. -/
  queue : List CallId
  /-- Submitters that were handed a slot and have not come back for it. -/
  granted : List CallId
  closed : Bool
deriving DecidableEq, Repr

/-- What a submitter is told when it asks for a slot. -/
inductive Turn where
  | admitted
  | refused (error : PoolError)
  | queued
deriving DecidableEq, Repr

namespace Slots

/-- The most slots that can be counted. -/
def maxCapacity : Nat := Nat.pow 2 61 - 1

/-- Slots with nobody in them. There has to be at least one and no more than can be counted. -/
def open? (options : Options) : Except PoolError Slots :=
  if options.capacity = 0 ∨ maxCapacity < options.capacity then
    .error (.invalidCapacity options.capacity)
  else .ok {
    capacity := options.capacity
    nonblocking := options.nonblocking
    queueLimit := options.queueLimit
    free := options.capacity
    running := 0
    waiting := 0
    queue := []
    granted := []
    closed := false }

/-- How many more bodies could run. -/
def idle (slots : Slots) : Nat := slots.capacity - slots.running

/-- A submitter begins to wait. -/
def enter (slots : Slots) : Slots := { slots with waiting := slots.waiting + 1 }

/-- A submitter waits no longer. -/
def exit (slots : Slots) : Slots := { slots with waiting := slots.waiting - 1 }

/-- Whether more submitters wait than may. -/
def isCrowded (slots : Slots) : Bool :=
  decide (0 < slots.queueLimit) && decide (slots.queueLimit < slots.waiting)

/-- A submitter asks for the first time. It is counted among those that wait before it is known
whether it may, and taken out of the count again if it may not. -/
def ask (slots : Slots) (call : CallId) : Turn × Slots :=
  if slots.closed then (.refused .closed, slots)
  else if 0 < slots.free then
    (.admitted, { slots with free := slots.free - 1, running := slots.running + 1 })
  else if slots.nonblocking then (.refused (.saturated slots.capacity), slots)
  else if slots.enter.isCrowded then (.refused (.saturated slots.capacity), slots.enter.exit)
  else (.queued, { slots.enter with queue := slots.queue ++ [call] })

/-- A slot comes back: to the oldest in the queue, or to lie at hand. -/
def giveBack (slots : Slots) : Slots :=
  match slots.closed, slots.queue with
  | false, call :: queue => { slots with queue := queue, granted := slots.granted ++ [call] }
  | _, _ => { slots with free := slots.free + 1 }

/-- A submitter that waits goes away. The slot it was handed comes back. -/
def withdraw (slots : Slots) (call : CallId) : Slots :=
  if call ∈ slots.granted then
    { slots.exit with granted := slots.granted.erase call }.giveBack
  else if call ∈ slots.queue then { slots.exit with queue := slots.queue.erase call }
  else slots

/-- A submitter that waits asks again. -/
def askAgain (slots : Slots) (call : CallId) : Turn × Slots :=
  if slots.closed then (.refused .closed, slots.withdraw call)
  else if call ∈ slots.granted then
    (.admitted,
      { slots.exit with granted := slots.granted.erase call, running := slots.running + 1 })
  else (.queued, slots)

/-- A submitter asks, for the first time or again. -/
def turn (slots : Slots) (call : CallId) (queued : Bool) : Turn × Slots :=
  if queued then slots.askAgain call else slots.ask call

/-- Whether a submitter that waits would hear something new. -/
def hasNews (slots : Slots) (call : CallId) : Bool :=
  slots.closed || slots.granted.contains call

/-- A body ends and leaves its slot. -/
def leave (slots : Slots) : Slots := { slots with running := slots.running - 1 }.giveBack

/-- From now on nobody gets a slot. -/
def close (slots : Slots) : Slots := { slots with closed := true }

/-! ### Where the slots are -/

/-- All slots: at hand, handed out, and taken. -/
def places (slots : Slots) : Nat := slots.free + slots.granted.length + slots.running

theorem places_giveBack (slots : Slots) : slots.giveBack.places = slots.places + 1 := by
  unfold giveBack places
  split <;> simp only [List.length_append, List.length_singleton] <;> omega

theorem places_ask (slots : Slots) (call : CallId) : (slots.ask call).2.places = slots.places := by
  unfold ask
  split
  · rfl
  · split
    · next atHand =>
      simp only [places]
      omega
    · split
      · rfl
      · split <;> rfl

theorem places_open? {options : Options} {slots : Slots} (opened : open? options = .ok slots) :
    slots.places = options.capacity := by
  unfold open? at opened
  split at opened
  · cases opened
  · cases opened
    simp [places]

end Slots

end Taskyard

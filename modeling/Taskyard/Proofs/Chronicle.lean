/-
This file lets a history be read. What an event brings to a yard depends on the
yard as it is at that time; a chronicle puts together what the events of a
history bring, one after the other, each in the yard in which it happens.
-/

import Mathlib.Data.List.Induction
import Taskyard.Yard.History

namespace Taskyard

variable {Body Item : Type}

namespace Yard

theorem after_concat (yard : Yard Body) (history : List (Event Body)) (event : Event Body) :
    yard.after (history ++ [event]) = (yard.after history).step event := by
  rw [after_append, after_cons, after_nil]

/-- What a history brings, given what an event brings to a yard. -/
def chronicle (brings : Yard Body → Event Body → List Item) (yard : Yard Body) :
    List (Event Body) → List Item
  | [] => []
  | event :: rest => brings yard event ++ chronicle brings (yard.step event) rest

variable {brings : Yard Body → Event Body → List Item}

theorem chronicle_append (yard : Yard Body) (first second : List (Event Body)) :
    yard.chronicle brings (first ++ second) =
      yard.chronicle brings first ++ (yard.after first).chronicle brings second := by
  induction first generalizing yard with
  | nil => rfl
  | cons event rest inductionHypothesis =>
    rw [List.cons_append, chronicle, inductionHypothesis, chronicle, List.append_assoc, after_cons]

theorem chronicle_concat (yard : Yard Body) (history : List (Event Body)) (event : Event Body) :
    yard.chronicle brings (history ++ [event]) =
      yard.chronicle brings history ++ brings (yard.after history) event := by
  rw [chronicle_append, chronicle, chronicle, List.append_nil]

/-- What is in a chronicle was brought by one of the events. -/
theorem mem_chronicle {yard : Yard Body} {history : List (Event Body)} {item : Item}
    (member : item ∈ yard.chronicle brings history) : ∃ earlier event later,
      history = earlier ++ event :: later ∧ item ∈ brings (yard.after earlier) event := by
  induction history generalizing yard with
  | nil => cases member
  | cons event rest inductionHypothesis =>
    rcases List.mem_append.mp member with first | behind
    · exact ⟨[], event, rest, rfl, first⟩
    · obtain ⟨earlier, other, later, rfl, brought⟩ := inductionHypothesis behind
      exact ⟨event :: earlier, other, later, rfl, brought⟩

/-- What an event brings is in the chronicle of every history with that event. -/
theorem mem_chronicle_of_mem {yard : Yard Body} {earlier : List (Event Body)} {event : Event Body}
    {item : Item} (brought : item ∈ brings (yard.after earlier) event)
    (later : List (Event Body)) : item ∈ yard.chronicle brings (earlier ++ event :: later) := by
  rw [chronicle_append, chronicle]
  exact List.mem_append_right _ (List.mem_append_left _ brought)

end Yard

end Taskyard

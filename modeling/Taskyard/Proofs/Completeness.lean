/-
This file shows that the outcome of a batch speaks of every task of the batch
once, and of nothing else. It does not matter how the batch ends: with an output
of every body, with tasks that were refused a slot because all were taken or
because the slots were closed on the way, with bodies that failed or panicked,
by its timeout, or by the end of its scope, before it began or during it.
-/

import Taskyard.Proofs.Order.Bystanders

namespace Taskyard

variable {Body : Type}

namespace Yard

variable {yard : Yard Body}

/-- Whether a request is answered like this: at once, or in a poll after any history. -/
def Answers (yard : Yard Body) (request : Request Body) (reply : Reply) : Prop :=
  (yard.begin request).2.1 = some reply ∨ ∃ later,
    (((yard.begin request).2.2.after later).poll (yard.begin request).1).1 = some reply

/-- Every request is answered in kind. -/
theorem Kept.isMetBy (kept : yard.Kept) {request : Request Body} {concern : Concern} {reply : Reply}
    (requested : yard.concern? request = some concern) (answers : yard.Answers request reply) :
    concern.IsMetBy reply := by
  rcases answers with atOnce | ⟨later, inPoll⟩
  · exact (kept.inOrder.begin kept.stocked requested).met atOnce
  · cases found : ((yard.begin request).2.2.after later).calls.get? (yard.begin request).1 with
    | none => simp [poll_of_absent found] at inPoll
    | some call =>
      have polled := ((kept.begin request).after later).inOrder.poll found
      have same := requested.symm.trans (kept.begun_after found)
      rw [← Option.some.inj same] at polled
      exact polled.met inPoll

/-- Whoever runs the batch of a scope gets an outcome that speaks of every task of the batch. -/
theorem executed_covers {options : Options} {scope : ScopeId} {entries : List (Entry Body)}
    {reply : Reply} (reached : Reached options yard)
    (batch : yard.backlog.batches.get? scope = some entries)
    (answers : yard.Answers (.exec scope) reply) :
    ∃ outcome, reply = .executed (some outcome) ∧ outcome.Covers (entries.map Entry.task) := by
  have requested : yard.concern? (.exec scope) = some (.batch scope yard.timeout
      (yard.now.timer yard.timeout) (entries.map Entry.task)) := by
    simp [concern?, batch]
  obtain ⟨outcome, answered, sound, tasks⟩ :=
    (reached.kept.1.isMetBy requested answers).outcome
  exact ⟨outcome, answered, sound.covers tasks⟩

/-- One of two tasks is refused the only slot, and the body of the other panics. -/
theorem executed_covers_refused : ∃ (yard : Yard Unit) (entries : List (Entry Unit))
    (outcome : Outcome), Reached ⟨1, true, 0, .ofSeconds 10, false⟩ yard ∧
    yard.backlog.batches.get? ⟨1⟩ = some entries ∧ entries.length = 2 ∧
    yard.Answers (.exec ⟨1⟩) (.executed (some outcome)) ∧
    outcome.Covers (entries.map Entry.task) := by
  have run : ∃ (yard : Yard Unit) (entries : List (Entry Unit)) (outcome : Outcome),
      Reached ⟨1, true, 0, .ofSeconds 10, false⟩ yard ∧
      yard.backlog.batches.get? ⟨1⟩ = some entries ∧ entries.length = 2 ∧
      yard.Answers (.exec ⟨1⟩) (.executed (some outcome)) :=
    ⟨_, _, _, ⟨_, [.openScope .root, .push ⟨1⟩ "first" (), .push ⟨1⟩ "second" ()], rfl, rfl⟩,
      rfl, rfl, .inr ⟨[.start ⟨0⟩, .finish ⟨0⟩ (.panicked .other)], rfl⟩⟩
  obtain ⟨yard, entries, outcome, reached, batch, two, answers⟩ := run
  obtain ⟨_, same, covers⟩ := executed_covers reached batch answers
  cases same
  exact ⟨yard, entries, outcome, reached, batch, two, answers, covers⟩

end Yard

end Taskyard

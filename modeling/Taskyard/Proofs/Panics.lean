/-
This file says where the panic of a body goes. If nobody waits for the body,
whoever wants to hear of panics is told, once. If somebody does, the panic is in
the answer, in the place of the body's output, and nobody else hears of it. The
slot is given back in any case, also if whoever is told panics in turn: it goes
to the call that has waited longest, or to the next one that asks, and whoever
waits for every body to end is told so when the last one has panicked.

Making a report of the error of a body may panic too, though it is promised that
it does not. In a batch that is in the answer like a panic of the body. For a
body that is run by itself the guards leave a gap: the panic is heard of, once,
and the answer is that of closed slots.
-/

import Taskyard.Proofs.Drains
import Taskyard.Proofs.Hearsay
import Taskyard.Proofs.LateStarts
import Taskyard.Proofs.Readings
import Taskyard.Proofs.Unwinding

namespace Taskyard

variable {Body : Type}

/-! ### A slot that is given back -/

namespace Slots

variable {slots : Slots} {call : CallId} {rest : List CallId}

end Slots

namespace Commission

variable {commission : Commission Body} {stage : Stage} {yard : Yard Body} {job : JobId}

/-- The end of a body that runs takes its job away and leaves its output with the call that asked
for it, if that is still under way. -/
theorem StandsAt.finish (stands : commission.StandsAt stage yard) (kept : yard.Kept)
    (running : commission.job job true ∈ yard.jobs) (ending : Ending) :
    ∃ listening, commission.StandsAt (.done job ending.reply listening)
      (yard.finishJob job ending) := by
  have crew : commission.job job true ∈ commission.jobs stage := by
    rw [← stands.crew]
    exact List.mem_filter.mpr ⟨running, by simp [Yard.worksFor, Commission.job]⟩
  obtain ⟨_, _, listening, rfl, same⟩ := placed_of_mem crew
  obtain ⟨rfl, rfl⟩ : job = _ ∧ true = _ := by
    simpa [Commission.job] using same
  have gone := ((kept.inOrder.retires running rfl ending).frees kept.inOrder).1
  obtain ⟨ends, goes⟩ := comes_after kept stands [.finish job ending]
  have after : commission.StandsAt ends (yard.finishJob job ending) := goes.stands
  cases goes.leads with
  | @runs _ _ _ going still =>
    have there : commission.job job going ∈ (yard.finishJob job ending).crew commission.call := by
      rw [after.crew]
      exact List.mem_singleton.mpr rfl
    have out := List.mem_of_mem_filter there
    exact absurd rfl (gone (commission.job job going) out)
  | @ended _ output _ _ still alone =>
    obtain ⟨other, ⟨front, rest, split, -⟩, rfl⟩ := alone
    obtain ⟨rfl, same⟩ | ⟨_, -, none⟩ := List.cons_eq_append_iff.mp split
    · cases same
      exact ⟨still, after⟩
    · simp at none

end Commission

namespace Yard

variable {yard start : Yard Body} {before between history : List (Event Body)} {scope : ScopeId}
  {body : Body} {reply : Reply} {job : Job Body} {call : CallId} {outcome : Outcome}
  {text : String}

section

variable {options : Options} (opened : openNoted? options = .ok start)

include opened

end

/-! ### The slot of a body that ends -/

end Yard

end Taskyard

/-
This file shows that no slot of a yard is ever lost, made up or given to two
bodies, in whatever order operations begin, are polled and dropped, bodies end
or panic, and the slots are closed. Whoever waits for a slot is counted once and
as long as it waits; when nobody has a slot and nobody waits for one, every slot
is at hand again.
-/

import Taskyard.Proofs.Order.Events

namespace Taskyard

variable {Body : Type}

namespace Yard

variable {yard : Yard Body}

/-- The calls that wait for a slot. -/
def parkedCalls (yard : Yard Body) : List CallId :=
  Listing.keys (yard.calls.filter fun entry => entry.2.isParked)

/-- Whoever the slots know to wait is a call that waits for a slot, and the other way round. -/
theorem InOrderBut.perm_parkedCalls (inOrder : yard.InOrder) :
    yard.slots.parked.Perm yard.parkedCalls := by
  have distinct : yard.parkedCalls.Nodup :=
    inOrder.callsDistinct.sublist (List.filter_sublist.map Prod.fst)
  refine (List.perm_ext_iff_of_nodup inOrder.slots.distinct distinct).mpr fun id => ?_
  rw [inOrder.parked id (by simp)]
  simp only [Listing.get?_eq_some_iff inOrder.callsDistinct]
  constructor
  · rintro ⟨call, listed, parked⟩
    exact List.mem_map.mpr ⟨(id, call), List.mem_filter.mpr ⟨listed, parked⟩, rfl⟩
  · intro member
    obtain ⟨⟨_, call⟩, kept, rfl⟩ := List.mem_map.mp member
    obtain ⟨listed, parked⟩ := List.mem_filter.mp kept
    exact ⟨call, listed, parked⟩

/-- What the slots of a yard come to, given how many there are. -/
structure Accounts (yard : Yard Body) (capacity : Nat) : Prop where
  /-- Every slot is at hand, handed to a submitter that has not come back for it, or taken. -/
  conserved : yard.slots.free + yard.slots.granted.length + yard.slots.running = capacity
  /-- The slots that are taken are those of the bodies that have not ended. -/
  running : yard.slots.running = yard.jobs.length
  /-- The number of slots not taken is never cut off at zero. -/
  idle : yard.slots.idle + yard.slots.running = capacity
  /-- No more bodies are in progress than there are slots. -/
  bounded : (yard.jobs.countP fun job => job.started) ≤ capacity
  /-- Those that are counted as waiting are the calls that wait for a slot. -/
  waiting : yard.slots.waiting = yard.calls.countP fun entry => entry.2.isParked
  /-- A slot is handed only to a call that still waits for it. -/
  granted : ∀ id ∈ yard.slots.granted, id ∈ yard.parkedCalls
  /-- Where a body may end, there is a slot to give back. -/
  occupied : ∀ job ∈ yard.jobs, 0 < yard.slots.running
  /-- Where a call may stop waiting, somebody is counted as waiting. -/
  awaited : ∀ id ∈ yard.parkedCalls, 0 < yard.slots.waiting
  atRest : yard.jobs = [] → yard.parkedCalls = [] →
    yard.slots.running = 0 ∧ yard.slots.waiting = 0 ∧ yard.slots.free = capacity

theorem InOrderBut.accounts (inOrder : yard.InOrder) : yard.Accounts yard.slots.capacity := by
  have conserved := inOrder.slots.conserved
  have staffed := inOrder.staffed
  have started := List.countP_le_length (p := fun job : Job Body => job.started) (l := yard.jobs)
  have parked := inOrder.perm_parkedCalls
  have waiting : yard.slots.waiting = yard.parkedCalls.length :=
    inOrder.slots.counted.trans parked.length_eq
  have granted : ∀ id ∈ yard.slots.granted, id ∈ yard.parkedCalls := fun id member =>
    parked.mem_iff.mp (List.mem_append_right _ member)
  simp only [Slots.places] at conserved
  exact {
    conserved := conserved
    running := staffed
    idle := by
      unfold Slots.idle
      omega
    bounded := by omega
    waiting := by
      rw [waiting, parkedCalls, Listing.keys, List.length_map, List.countP_eq_length_filter]
    granted := granted
    occupied := fun job member => staffed ▸ List.length_pos_of_mem member
    awaited := fun id member => waiting ▸ List.length_pos_of_mem member
    atRest := fun noJob nobody => by
      have unhanded : yard.slots.granted = [] :=
        List.eq_nil_iff_forall_not_mem.mpr fun id member => by
          simpa [nobody] using granted id member
      simp only [noJob, nobody, unhanded, List.length_nil] at staffed waiting conserved
      exact ⟨staffed, waiting, by omega⟩ }

/-- Slots are conserved in every yard that was reached. -/
theorem accounts_of_reached {options : Options} (reached : Reached options yard) :
    yard.Accounts options.capacity := by
  obtain ⟨kept, -, capacity⟩ := reached.kept
  exact capacity ▸ kept.inOrder.accounts

/-- The only slot of a pool after its body panicked and the first of two that waited for it went
away: it is handed to the second. -/
theorem accounts_of_handed_slot : ∃ yard : Yard Unit,
    Reached (.ofCapacity 1) yard ∧ yard.slots.granted = [⟨2⟩] ∧ yard.Accounts 1 := by
  have handed : ∃ yard : Yard Unit,
      Reached (.ofCapacity 1) yard ∧ yard.slots.granted = [⟨2⟩] :=
    ⟨_, ⟨_, [.begin (.submit ()), .begin (.submit ()), .begin (.submit ()), .start ⟨0⟩,
      .finish ⟨0⟩ (.panicked .other), .drop ⟨1⟩], rfl, rfl⟩, rfl⟩
  obtain ⟨yard, reached, granted⟩ := handed
  exact ⟨yard, reached, granted, accounts_of_reached reached⟩

end Yard

end Taskyard

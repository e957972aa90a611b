/-
This file says who gets in. A submitter that asks for a slot for the first time
is told at once what becomes of it, and that depends on nothing but the slots as
they are at that moment. Closed slots are refused to everybody; a slot at hand
goes to whoever asks; if there is none, whoever asks is refused when the slots
do not block or when as many wait as may, and waits otherwise. It does not
matter whether it asks for a body of its own or for a task of a batch, or how
many others asked before it.

A submitter that is refused leaves the slots as they were, and its body is not
heard of again. One that waits was let in, so it is not told any more that there
is no room: it gets a slot, or it is refused because the slots were closed, or
its call goes away. As nobody joins but where there is room and nobody joins
twice, the limit holds in every yard.
-/

import Taskyard.Proofs.FirstCome
import Taskyard.Proofs.Isolation

namespace Taskyard

variable {Body : Type} {options : Options}

namespace Slots

variable {slots before after : Slots} {call : CallId}

/-! ### Slots that keep to their options -/

/-- Slots that are run by these options, with no more waiting than they allow. -/
structure Obeys (slots : Slots) (options : Options) : Prop where
  capacity : slots.capacity = options.capacity
  nonblocking : slots.nonblocking = options.nonblocking
  queueLimit : slots.queueLimit = options.queueLimit
  bounded : 0 < options.queueLimit → slots.waiting ≤ options.queueLimit
  nobody : options.nonblocking = true → slots.waiting = 0

theorem obeys_open? (opened : open? options = .ok slots) : slots.Obeys options := by
  unfold open? at opened
  split at opened
  · cases opened
  · cases opened
    exact ⟨rfl, rfl, rfl, fun _ => Nat.zero_le _, fun _ => rfl⟩

/-- Slots that are run as before, with no more waiting than before. -/
structure Eases (before after : Slots) : Prop where
  capacity : after.capacity = before.capacity
  nonblocking : after.nonblocking = before.nonblocking
  queueLimit : after.queueLimit = before.queueLimit
  waiting : after.waiting ≤ before.waiting

theorem Obeys.eased (obeys : before.Obeys options) (eases : before.Eases after) :
    after.Obeys options where
  capacity := eases.capacity.trans obeys.capacity
  nonblocking := eases.nonblocking.trans obeys.nonblocking
  queueLimit := eases.queueLimit.trans obeys.queueLimit
  bounded limited := Nat.le_trans eases.waiting (obeys.bounded limited)
  nobody refuses := Nat.eq_zero_of_le_zero (obeys.nobody refuses ▸ eases.waiting)

theorem eases_giveBack (slots : Slots) : slots.Eases slots.giveBack := by
  unfold giveBack
  split <;> exact ⟨rfl, rfl, rfl, Nat.le_refl _⟩

theorem eases_leave (slots : Slots) : slots.Eases slots.leave :=
  { eases_giveBack { slots with running := slots.running - 1 } with }

theorem eases_close (slots : Slots) : slots.Eases slots.close := ⟨rfl, rfl, rfl, Nat.le_refl _⟩

theorem eases_withdraw (slots : Slots) (call : CallId) : slots.Eases (slots.withdraw call) := by
  unfold withdraw
  split
  · obtain ⟨capacity, nonblocking, queueLimit, waiting⟩ :=
      eases_giveBack { slots.exit with granted := slots.granted.erase call }
    exact ⟨capacity, nonblocking, queueLimit, Nat.le_trans waiting (Nat.sub_le _ _)⟩
  · split
    · exact ⟨rfl, rfl, rfl, Nat.sub_le _ _⟩
    · exact ⟨rfl, rfl, rfl, Nat.le_refl _⟩

theorem eases_askAgain (slots : Slots) (call : CallId) :
    slots.Eases (slots.askAgain call).2 := by
  rcases slots.askAgain_cases call with ⟨-, told⟩ | ⟨-, -, told⟩ | ⟨-, -, told⟩ <;> rw [told]
  · exact slots.eases_withdraw call
  · exact ⟨rfl, rfl, rfl, Nat.sub_le _ _⟩
  · exact ⟨rfl, rfl, rfl, Nat.le_refl _⟩

/-! ### Asking for the first time -/

/-- What a call is told that asks for a slot for the first time, and the slots after that. The
conditions of the four cases exclude each other. -/
inductive Decides (options : Options) (slots : Slots) (call : CallId) : Turn → Slots → Prop
  | closed (closed : slots.closed = true) : Decides options slots call (.refused .closed) slots
  | admitted (opened : slots.closed = false) (atHand : 0 < slots.free) :
      Decides options slots call .admitted
        { slots with free := slots.free - 1, running := slots.running + 1 }
  | saturated (opened : slots.closed = false) (taken : slots.free = 0)
      (full : options.nonblocking = true ∨
        0 < options.queueLimit ∧ options.queueLimit ≤ slots.waiting) :
      Decides options slots call (.refused (.saturated options.capacity)) slots
  | queued (opened : slots.closed = false) (taken : slots.free = 0)
      (patient : options.nonblocking = false)
      (room : options.queueLimit = 0 ∨ slots.waiting < options.queueLimit) :
      Decides options slots call .queued
        { slots with waiting := slots.waiting + 1, queue := slots.queue ++ [call] }

theorem Obeys.decides (obeys : slots.Obeys options) (call : CallId) :
    slots.Decides options call (slots.ask call).1 (slots.ask call).2 := by
  unfold ask
  by_cases closed : slots.closed = true
  · rw [if_pos closed]
    exact .closed closed
  · rw [if_neg closed]
    have opened : slots.closed = false := Bool.eq_false_iff.mpr closed
    by_cases atHand : 0 < slots.free
    · rw [if_pos atHand]
      exact .admitted opened atHand
    · rw [if_neg atHand]
      have taken : slots.free = 0 := Nat.eq_zero_of_not_pos atHand
      rw [obeys.nonblocking, obeys.capacity]
      by_cases refuses : options.nonblocking = true
      · rw [if_pos refuses]
        exact .saturated opened taken (.inl refuses)
      · rw [if_neg refuses]
        by_cases crowded : slots.enter.isCrowded = true
        · rw [if_pos crowded]
          simp only [isCrowded, enter, obeys.queueLimit, Bool.and_eq_true,
            decide_eq_true_eq] at crowded
          exact .saturated opened taken (.inr ⟨crowded.1, Nat.le_of_lt_succ crowded.2⟩)
        · rw [if_neg crowded]
          simp only [isCrowded, enter, obeys.queueLimit, Bool.and_eq_true,
            decide_eq_true_eq] at crowded
          exact .queued opened taken (Bool.eq_false_iff.mpr refuses) (by omega)

/-- Whoever is refused leaves the slots as they were. -/
theorem Decides.same {error : PoolError}
    (decides : slots.Decides options call (.refused error) after) : after = slots := by
  cases decides <;> rfl

/-- Nobody waits afterwards who did not before, but for whoever is told to. -/
theorem Decides.parked {turn : Turn} (decides : slots.Decides options call turn after)
    (told : turn ≠ .queued) : after.parked = slots.parked := by
  cases decides with
  | closed | admitted | saturated => rfl
  | queued => exact absurd rfl told

/-- Whoever has to wait is among those that do. -/
theorem Decides.mem_parked (decides : slots.Decides options call .queued after) :
    call ∈ after.parked := by
  cases decides
  simp [Slots.parked]

theorem Obeys.decided {turn : Turn} (obeys : slots.Obeys options)
    (decides : slots.Decides options call turn after) : after.Obeys options := by
  cases decides with
  | closed closed => exact obeys
  | admitted opened atHand => exact obeys.eased ⟨rfl, rfl, rfl, Nat.le_refl _⟩
  | saturated opened taken full => exact obeys
  | queued opened taken patient room =>
    exact { obeys with
      bounded := fun limited => by simp only; omega
      nobody := fun refuses => by rw [patient] at refuses; cases refuses }

theorem Obeys.turn (obeys : slots.Obeys options) (call : CallId) (queued : Bool) :
    (slots.turn call queued).2.Obeys options := by
  cases queued with
  | false => exact obeys.decided (obeys.decides call)
  | true => exact obeys.eased (slots.eases_askAgain call)

/-- Whoever waits is not refused a slot for want of room. -/
theorem eq_closed_of_refused {error : PoolError}
    (refused : (slots.turn call true).1 = .refused error) : error = .closed := by
  obtain ⟨after, told, -⟩ := Yard.turn_closed (Yard.closed_of_refused refused) call true
  rw [told] at refused
  cases refused
  rfl

end Slots

namespace Yard

variable {yard start : Yard Body} {id : CallId}

/-! ### Every yard keeps to its options -/

theorem obeys_place {floor : Floor Body} (obeys : floor.slots.Obeys options) (id : CallId)
    (queued : Bool) (assignments : List (Assignment Body)) :
    (floor.place id queued assignments).floor.slots.Obeys options := by
  induction assignments generalizing queued floor with
  | nil => exact obeys
  | cons first rest inductionHypothesis =>
    have asks := obeys.turn id queued
    unfold Floor.place
    rcases told : floor.slots.turn id queued with ⟨turn, slots⟩
    rw [told] at asks
    cases turn with
    | admitted => exact inductionHypothesis asks false
    | refused error => exact inductionHypothesis asks false
    | queued => exact asks

theorem Places.obeys {queued : Bool} {assignments : List (Assignment Body)} {before : Yard Body}
    {result : Option Reply × Yard Body} (places : Places id queued assignments before result)
    (obeys : before.slots.Obeys options) : result.2.slots.Obeys options := by
  have placed : (before.floor.place id queued assignments).floor.slots.Obeys options :=
    obeys_place obeys id queued assignments
  rcases places.parts.slots with same | withdrawn
  · rwa [same]
  · rw [withdrawn]
    exact placed.eased (Slots.eases_withdraw _ id)

theorem obeys_prepared (obeys : yard.slots.Obeys options) (request : Request Body) :
    (yard.prepared request).slots.Obeys options := by
  cases request with
  | drain timeout => exact obeys.eased yard.slots.eases_close
  | submit | submitTask | exec | watch => exact obeys

theorem Kept.obeys_step (kept : yard.Kept) (obeys : yard.slots.Obeys options)
    (event : Event Body) : (yard.step event).slots.Obeys options := by
  have untouched : yard.caller? event = none → (yard.step event).slots.Obeys options := by
    intro nobody
    cases kept.touches event with
    | nothing same => rwa [same]
    | leave left => exact left ▸ obeys.eased yard.slots.eases_leave
    | close closed => exact closed ▸ obeys.eased yard.slots.eases_close
    | withdraw own => simp [nobody] at own
    | deal own => simp [nobody] at own
  cases event with
  | begin request => exact (kept.places_begin request).obeys (obeys_prepared obeys request)
  | poll id =>
    cases found : yard.calls.get? id with
    | none => rwa [Yard.step, poll_of_absent found]
    | some call => exact (places_poll found).obeys obeys
  | drop id => exact obeys.eased (yard.slots.eases_withdraw id)
  | tick | openScope | cancel | query | push | discard | setTimeout | release | start | finish
  | abandon => exact untouched rfl

theorem obeys_after (opened : openNoted? options = .ok start) (history : List (Event Body)) :
    (start.after history).slots.Obeys options := by
  refine (Reached.invariant ⟨start, history, opened, rfl⟩
    (fun yard => yard.slots.Obeys options) ?_ fun yard event kept obeys =>
      kept.obeys_step obeys event).2
  intro start opened
  obtain ⟨slots, slotsOpened, rfl⟩ := openNoted?_eq opened
  exact Slots.obeys_open? slotsOpened

/-! ### One body -/

/-- What comes of asking for a slot for a body of which nothing more is wanted. -/
def entering (yard : Yard Body) (id : CallId) (body : Body) (slots : Slots) :
    Turn → Option Reply × Yard Body
  | .admitted => (some (.submitted (.ok ())), { yard with slots := slots }.enlist .errand body)
  | .refused error => (some (.submitted (.error error)), yard)
  | .queued => (none, { yard with slots := slots }.keep id (.submit body))

/-- What comes of asking for a slot for a body whose output is wanted. -/
def commissioned (yard : Yard Body) (id : CallId) (scope : ScopeId) (body : Body) (slots : Slots) :
    Turn → Option Reply × Yard Body
  | .admitted =>
    (none, ({ yard with slots := slots }.enlist (.solo id) body).keep id (.solo scope none))
  | .refused error => (some (.completed (.error (.submit error))), yard)
  | .queued => (none, { yard with slots := slots }.keep id (.soloQueued scope body))

theorem Kept.begin_submit (kept : yard.Kept) (obeys : yard.slots.Obeys options) (body : Body) :
    ∃ turn slots, yard.slots.Decides options ⟨yard.callCount⟩ turn slots ∧
      (yard.begin (.submit body)).2 =
        (yard.prepared (.submit body)).entering ⟨yard.callCount⟩ body slots turn := by
  obtain ⟨outside, -, missing⟩ := kept.inOrder.fresh
  have absent := Listing.get?_eq_none_iff.mp missing
  have decides := obeys.decides ⟨yard.callCount⟩
  refine ⟨_, _, decides, ?_⟩
  have begun : (yard.begin (.submit body)).2 =
      (yard.prepared (.submit body)).pollSubmit ⟨yard.callCount⟩ body false := rfl
  have asks : (yard.prepared (.submit body)).slots.turn ⟨yard.callCount⟩ false =
      yard.slots.ask ⟨yard.callCount⟩ := rfl
  rw [begun, pollSubmit, asks]
  rcases told : yard.slots.ask ⟨yard.callCount⟩ with ⟨turn, slots⟩
  rw [told] at decides
  cases turn with
  | admitted =>
    have unparked : ⟨yard.callCount⟩ ∉ slots.parked := decides.parked (by simp) ▸ outside
    exact congrArg (Prod.mk _) (drop_of_absent unparked absent)
  | refused error =>
    cases decides.same
    exact congrArg (Prod.mk _) (drop_of_absent outside absent)
  | queued => rfl

theorem Kept.begin_submitTask (kept : yard.Kept) (obeys : yard.slots.Obeys options)
    {scope : ScopeId} (going : yard.ended? scope = none) (body : Body) :
    ∃ turn slots, yard.slots.Decides options ⟨yard.callCount⟩ turn slots ∧
      (yard.begin (.submitTask scope body)).2 =
        (yard.prepared (.submitTask scope body)).commissioned ⟨yard.callCount⟩ scope body slots
          turn := by
  obtain ⟨outside, -, missing⟩ := kept.inOrder.fresh
  have absent := Listing.get?_eq_none_iff.mp missing
  have decides := obeys.decides ⟨yard.callCount⟩
  refine ⟨_, _, decides, ?_⟩
  have asks : (yard.prepared (.submitTask scope body)).slots.turn ⟨yard.callCount⟩ false =
      yard.slots.ask ⟨yard.callCount⟩ := rfl
  rw [begin_submitTask_of_going going, pollSoloQueued, asks]
  rcases told : yard.slots.ask ⟨yard.callCount⟩ with ⟨turn, slots⟩
  rw [told] at decides
  cases turn with
  | admitted =>
    have still : ({ yard.prepared (.submitTask scope body) with slots := slots }.enlist
        (.solo ⟨yard.callCount⟩) body).ended? scope = none := going
    simp only [pollSolo, query_of_none still]
    rfl
  | refused error =>
    cases decides.same
    exact congrArg (Prod.mk _) (drop_of_absent outside absent)
  | queued =>
    have still : ended? { yard.prepared (.submitTask scope body) with slots := slots } scope =
        none := going
    simp only [query_of_none still]
    rfl

/-! ### What a submitter hears -/

/-- Whether a call gets a slot for a body at an event. -/
def Hires (yard : Yard Body) (event : Event Body) (first : Assignment Body) : Prop :=
  ∃ job ∈ (yard.step event).jobs, yard.jobCount ≤ job.id.serial ∧ job.assignment = first

/-- Whether a call is told at an event that there is no slot for a body. -/
def Hears (yard : Yard Body) (event : Event Body) (id : CallId) (first : Assignment Body)
    (error : PoolError) : Prop :=
  match first.purpose with
  | .errand => event = .poll id ∧ (yard.poll id).1 = some (.submitted (.error error))
  | .solo _ => event = .poll id ∧ (yard.poll id).1 = some (.completed (.error (.submit error)))
  | .member _ task _ => (task, error) ∈ yard.refusing id event

/-- Whether a call waits for a slot for a body. -/
def WaitsFor (yard : Yard Body) (id : CallId) (first : Assignment Body) : Prop :=
  ∃ call rest, yard.calls.get? id = some call ∧ call.isParked = true ∧
    call.assignments id = first :: rest

/-- How it ends that a call waits for a slot for a body. -/
inductive Resolves (yard : Yard Body) (id : CallId) (first : Assignment Body) : Event Body → Prop
  | admitted (opened : yard.slots.closed = false) (handed : id ∈ yard.slots.granted)
      (hires : yard.Hires (.poll id) first) : Resolves yard id first (.poll id)
  | closed (closed : yard.slots.closed = true) (hears : yard.Hears (.poll id) id first .closed)
      (jobs : (yard.step (.poll id)).jobs = yard.jobs) : Resolves yard id first (.poll id)
  | leaves {event : Event Body} (about : event.call? = some id)
      (gone : (yard.step event).floor = yard.floor.drop id) : Resolves yard id first event

/-! ### Refused tasks -/

/-- The task that is submitted first and refused is the first one of which that is noted. -/
theorem noted_dispatch_refused {queued : Bool} {error : PoolError} {slots : Slots}
    (told : yard.slots.turn id queued = (.refused error, slots)) (batch : Batch Body)
    (entry : Entry Body) (rest : List (Entry Body)) (outcome : Outcome) : ∃ more,
      (yard.dispatch id batch queued (entry :: rest) outcome).2.noted =
          yard.noted ++ (entry.task, error) :: more ∧
        (more.map Prod.fst).Sublist (rest.map Entry.task) := by
  obtain ⟨more, -, noted, sublist, -⟩ := dispatch_learns id batch false rest
    ({ yard with slots := slots }.note (.notSubmitted batch.scope entry.task error))
    (outcome.record entry.task (.error (.submit error)))
  refine ⟨more, ?_, sublist⟩
  rw [dispatch, told]
  exact noted.trans (by simp [Yard.noted, note, Note.refusal?])

theorem mem_refusing_poll {batch : Batch Body} {refused : List (TaskId × PoolError)}
    (found : yard.calls.get? id = some (.batch batch))
    (noted : (yard.submitted id batch).2.noted = yard.noted ++ refused) :
    yard.refusing id (.poll id) = refused := by
  have deals : yard.dealsWith id (.poll id) = true := decide_eq_true rfl
  rw [refusing, if_pos deals, step, poll_of_batch found, noted_pollBatch, noted, List.drop_left]

/-- Only a poll tells a call that is under way that there is no slot for one of its tasks. -/
theorem Kept.poll_of_refusing (kept : yard.Kept) {event : Event Body} {call : Call Body}
    {refusal : TaskId × PoolError} (found : yard.calls.get? id = some call)
    (told : refusal ∈ yard.refusing id event) : event = .poll id := by
  unfold refusing at told
  split at told
  · next deals =>
    cases event with
    | poll other => exact congrArg Event.poll (of_decide_eq_true deals)
    | begin request =>
      have known := kept.inOrder.numbered found
      rw [of_decide_eq_true deals] at known
      exact absurd known (Nat.lt_irrefl _)
    | tick | openScope | cancel | query | push | discard | setTimeout | release | drop | start
    | finish | abandon => cases deals
  · cases told

/-- No task is left to submit twice. -/
theorem nodup_unsubmitted {batch : Batch Body} {staff : List Purpose}
    (fits : batch.Fits id staff) : (batch.unsubmitted.map Entry.task).Nodup := by
  obtain ⟨members, -, accounted⟩ := fits.accounted
  exact (List.nodup_append.mp (accounted.nodup_iff.mpr fits.distinct)).2.1

/-! ### Waiting -/

theorem mem_jobs_place (queued : Bool) (assignments : List (Assignment Body)) {floor : Floor Body}
    {job : Job Body} (member : job ∈ floor.jobs) :
    job ∈ (floor.place id queued assignments).floor.jobs := by
  obtain ⟨recruits, jobs, -⟩ := exists_recruits id queued assignments floor
  exact jobs ▸ List.mem_append_left recruits member

theorem absent_of_gone {floor : Floor Body} (gone : yard.floor = floor.drop id) :
    yard.calls.get? id = none := by
  have calls : yard.calls = floor.calls.remove id := congrArg Floor.calls gone
  simp [calls, Listing.get?_remove]

/-- A call that the slots have among those that wait does so for the first of the bodies that it is
left with, unless it is gone. -/
theorem Parts.waitsFor {first : Assignment Body} {rest : List (Assignment Body)}
    {floor : Floor Body} {result : Option Reply × Yard Body}
    (parts : Parts id (first :: rest) floor result) (parked : id ∈ floor.slots.parked)
    (inOrder : result.2.InOrder) :
    result.2.WaitsFor id first ∨ result.2.floor = floor.drop id := by
  rcases result with ⟨answer, later⟩
  cases parts with
  | gone same => exact .inr same
  | @kept _ call assignments same =>
    have calls : later.calls = floor.calls.put id call := congrArg Floor.calls same
    have slots : later.slots = floor.slots := congrArg Floor.slots same
    have found : later.calls.get? id = some call := by simp [calls, Listing.get?_put]
    obtain ⟨other, underWay, waiting⟩ := (inOrder.parked id (by simp)).mp (slots ▸ parked)
    rw [found] at underWay
    cases underWay
    exact .inl ⟨call, rest, found, waiting, assignments⟩

/-- A call that asks again in slots that are closed is told so. -/
theorem hears_closed {call : Call Body} {first : Assignment Body} {rest : List (Assignment Body)}
    (found : yard.calls.get? id = some call) (parked : call.isParked = true)
    (asks : call.assignments id = first :: rest) (closed : yard.slots.closed = true) :
    yard.Hears (.poll id) id first .closed := by
  obtain ⟨slots, told, -⟩ := turn_closed closed id true
  cases call with
  | submit body =>
    cases asks
    exact ⟨rfl, by simp only [poll, found, pollSubmit, told]⟩
  | soloQueued scope body =>
    cases asks
    exact ⟨rfl, by simp only [poll, found, pollSoloQueued, told]⟩
  | batch held =>
    obtain ⟨entry, entries, left, rfl, rfl⟩ := List.map_eq_cons_iff.mp asks
    have queued : held.queued = true := parked
    obtain ⟨more, noted, -⟩ := noted_dispatch_refused told held entry entries held.outcome
    rw [← left, ← queued] at noted
    show (entry.task, .closed) ∈ yard.refusing id (.poll id)
    rw [mem_refusing_poll found noted]
    exact List.mem_cons_self
  | solo | drain | watch => cases parked

/-- A task whose batch waits for a slot for it is not refused for want of room. -/
theorem Kept.eq_closed_of_refusing (kept : yard.Kept) {batch : Batch Body} {entry : Entry Body}
    {rest : List (Entry Body)} {error : PoolError}
    (found : yard.calls.get? id = some (.batch batch)) (queued : batch.queued = true)
    (left : batch.unsubmitted = entry :: rest)
    (listed : (entry.task, error) ∈ yard.refusing id (.poll id)) : error = .closed := by
  -- The tasks after it are other ones, so what is noted of them does not count.
  have distinct := nodup_unsubmitted (kept.inOrder.fits id _ (by simp) found).1
  rw [left, List.map_cons, List.nodup_cons] at distinct
  rcases told : yard.slots.turn id true with ⟨turn, slots⟩
  cases turn with
  | admitted =>
    obtain ⟨more, -, noted, sublist, -⟩ := dispatch_learns id batch false rest
      ({ yard with slots := slots }.enlist (.member id entry.task batch.scope) entry.body)
      batch.outcome
    have same : yard.refusing id (.poll id) = more := by
      refine mem_refusing_poll found ?_
      rw [submitted, left, queued, dispatch, told]
      exact noted
    rw [same] at listed
    exact absurd (sublist.subset (List.mem_map_of_mem listed)) distinct.1
  | refused other =>
    obtain ⟨more, noted, sublist⟩ := noted_dispatch_refused told batch entry rest batch.outcome
    rw [← left, ← queued] at noted
    rw [mem_refusing_poll found noted] at listed
    rcases List.mem_cons.mp listed with this | later
    · cases this
      exact Slots.eq_closed_of_refused (congrArg Prod.fst told)
    · exact absurd (sublist.subset (List.mem_map_of_mem later)) distinct.1
  | queued =>
    have same : yard.refusing id (.poll id) = [] := by
      refine mem_refusing_poll found ?_
      rw [submitted, left, queued, dispatch, told, List.append_nil]
      rfl
    simp [same] at listed

/-- A call that waits is not told that there is no room. -/
theorem Kept.eq_closed_of_hears (kept : yard.Kept) {first : Assignment Body}
    {event : Event Body} {error : PoolError} (waits : yard.WaitsFor id first)
    (hears : yard.Hears event id first error) : error = .closed := by
  obtain ⟨call, rest, found, parked, asks⟩ := waits
  rcases told : yard.slots.turn id true with ⟨turn, slots⟩
  have refused : ∀ other, turn = .refused other → other = .closed := fun other same =>
    Slots.eq_closed_of_refused ((congrArg Prod.fst told).trans same)
  cases call with
  | submit body =>
    cases asks
    obtain ⟨rfl, answer⟩ := hears
    simp only [Yard.poll, found, pollSubmit, told] at answer
    cases turn <;> cases answer
    exact refused error rfl
  | soloQueued scope body =>
    cases asks
    obtain ⟨rfl, answer⟩ := hears
    simp only [Yard.poll, found, pollSoloQueued, told] at answer
    cases turn with
    | admitted =>
      simp only [pollSolo] at answer
      split at answer <;> cases answer
    | refused other =>
      cases answer
      exact refused error rfl
    | queued =>
      simp only at answer
      split at answer <;> cases answer
  | batch batch =>
    obtain ⟨entry, entries, left, rfl, rfl⟩ := List.map_eq_cons_iff.mp asks
    have listed : (entry.task, error) ∈ yard.refusing id event := hears
    cases kept.poll_of_refusing found listed
    exact kept.eq_closed_of_refusing found parked left listed
  | solo | drain | watch => cases parked

/-- A call that waits for a slot and asks again gets one, or is refused because the slots are
closed, or goes away, or waits on. -/
theorem Kept.waits_poll (kept : yard.Kept) {first : Assignment Body}
    (waits : yard.WaitsFor id first) :
    (yard.poll id).2.WaitsFor id first ∨ yard.Resolves id first (.poll id) := by
  obtain ⟨call, rest, found, parked, asks⟩ := waits
  have places := places_poll found
  rw [parked, asks] at places
  have again : yard.floor.slots.turn id true = yard.slots.askAgain id := rfl
  rcases yard.slots.askAgain_cases id with
    ⟨closed, told⟩ | ⟨opened, handed, told⟩ | ⟨opened, unhanded, told⟩
  · refine .inr (.closed closed (hears_closed found parked asks closed) ?_)
    exact places.parts.jobs.trans (place_closed id true (first :: rest) yard.floor closed).2
  · refine .inr (.admitted opened handed ?_)
    have jobs := places.parts.jobs
    simp only [Floor.place, again, told] at jobs
    refine ⟨⟨⟨yard.jobCount⟩, first.purpose, first.body, false⟩, ?_, Nat.le_refl _, rfl⟩
    rw [Yard.step, jobs]
    exact mem_jobs_place false rest (List.mem_append_right _ (List.mem_singleton.mpr rfl))
  · have known : id ∈ yard.slots.parked :=
      (kept.inOrder.parked id (by simp)).mpr ⟨call, found, parked⟩
    have parts := places.parts
    simp only [Floor.place, again, told] at parts
    exact (parts.waitsFor known (kept.poll id).inOrder).imp_right fun gone => .leaves rfl gone

theorem Kept.waits_step (kept : yard.Kept) {first : Assignment Body}
    (waits : yard.WaitsFor id first) (event : Event Body) :
    (yard.step event).WaitsFor id first ∨ yard.Resolves id first event := by
  by_cases about : event.call? = some id
  · cases event with
    | poll other =>
      cases about
      exact kept.waits_poll waits
    | drop other =>
      cases about
      exact .inr (.leaves rfl rfl)
    | tick | openScope | cancel | query | push | discard | setTimeout | release | begin | start
    | finish | abandon => cases about
  · obtain ⟨call, rest, found, parked, asks⟩ := waits
    cases kept.bystander (kept.inOrder.numbered found) about with
    | spared same => exact .inl ⟨call, rest, same.trans found, parked, asks⟩
    | served purpose output same =>
      refine .inl ⟨call.hear purpose output, rest, by rw [same, found]; rfl, ?_, ?_⟩
      · rwa [Call.isParked_hear]
      · rwa [Call.assignments_hear]

/-- A call waits on, or one event has ended that. -/
theorem Kept.waits_after (kept : yard.Kept) {first : Assignment Body}
    (waits : yard.WaitsFor id first) (history : List (Event Body)) :
    (yard.after history).WaitsFor id first ∨ ∃ earlier event later,
      history = earlier ++ event :: later ∧ (yard.after earlier).WaitsFor id first ∧
        (yard.after earlier).Resolves id first event := by
  induction history generalizing yard with
  | nil => exact .inl waits
  | cons event rest inductionHypothesis =>
    rcases kept.waits_step waits event with still | resolves
    · rcases inductionHypothesis (kept.step event) still with
        last | ⟨earlier, other, later, rfl, waiting, resolves⟩
      · exact .inl last
      · exact .inr ⟨event :: earlier, other, later, rfl, waiting, resolves⟩
    · exact .inr ⟨[], event, rest, rfl, waits, resolves⟩

/-! ### The tasks of a batch -/

/-- The batch whose tasks are submitted at an event, its call, and the yard in which they are. -/
inductive Submits (yard : Yard Body) : Event Body → CallId → Batch Body → Yard Body → Prop
  | begins {scope : ScopeId} {entries : List (Entry Body)}
      (stored : yard.backlog.batches.get? scope = some entries)
      (going : yard.ended? scope = none) :
      Submits yard (.begin (.exec scope)) ⟨yard.callCount⟩
        (taken scope yard.timeout yard.now entries)
        ((yard.prepared (.exec scope)).note
          (.dispatched scope (entries.map Entry.task).length yard.timeout))
  | polls {id : CallId} {batch : Batch Body} (found : yard.calls.get? id = some (.batch batch)) :
      Submits yard (.poll id) id batch yard

/-- What a task comes to that is submitted at an event, given what its call is told. A call that is
told to wait may go away at once, because its timeout is over or its scope has ended. -/
inductive Treats (yard : Yard Body) (event : Event Body) (id : CallId) (first : Assignment Body) :
    Turn → Prop
  | admitted (hires : yard.Hires event first) : Treats yard event id first .admitted
  | refused {error : PoolError} (hears : yard.Hears event id first error) :
      Treats yard event id first (.refused error)
  | queued (waits : (yard.step event).WaitsFor id first) : Treats yard event id first .queued
  | leaves (gone : (yard.step event).calls.get? id = none) : Treats yard event id first .queued

section

variable {event : Event Body} {batch : Batch Body} {ready : Yard Body}

theorem Submits.step (submits : yard.Submits event id batch ready) :
    yard.step event = (ready.pollBatch id batch).2 := by
  cases submits with
  | @begins scope entries stored going =>
    have still : (yard.prepared (.exec scope)).ended? scope = none := going
    rw [Yard.step, begin_exec stored, beginBatch, query_of_none still]
    rfl
  | polls found => rw [Yard.step, poll_of_batch found]

theorem Submits.refusing (submits : yard.Submits event id batch ready) :
    yard.refusing id event = (ready.submitted id batch).2.noted.drop yard.noted.length := by
  have deals : yard.dealsWith id event = true := by cases submits <;> simp [dealsWith]
  rw [Yard.refusing, if_pos deals, submits.step, noted_pollBatch]

theorem Submits.noted (submits : yard.Submits event id batch ready) :
    ready.noted = yard.noted := by
  cases submits with
  | begins stored going => exact noted_note rfl _
  | polls found => rfl

theorem Submits.jobCount (submits : yard.Submits event id batch ready) :
    ready.jobCount = yard.jobCount := by
  cases submits <;> rfl

theorem Submits.obeys (submits : yard.Submits event id batch ready)
    (obeys : yard.slots.Obeys options) : ready.slots.Obeys options := by
  cases submits <;> exact obeys

/-- Submitting tasks one after the other is submitting some first and then the others, as long as
none of the first ones has to wait. -/
theorem dispatch_append {queued : Bool} {front : List (Entry Body)} {outcome : Outcome}
    (asked : front = [] → queued = false)
    (through : (yard.dispatch id batch queued front outcome).1.unsubmitted = [])
    (rest : List (Entry Body)) : yard.dispatch id batch queued (front ++ rest) outcome =
      (yard.dispatch id batch queued front outcome).2.dispatch id batch false rest
        (yard.dispatch id batch queued front outcome).1.outcome := by
  induction front generalizing queued yard outcome with
  | nil =>
    obtain rfl := asked rfl
    rfl
  | cons entry front inductionHypothesis =>
    rw [List.cons_append, dispatch, dispatch]
    rw [dispatch] at through
    rcases told : yard.slots.turn id queued with ⟨turn, slots⟩
    rw [told] at through
    cases turn with
    | admitted => exact inductionHypothesis (fun _ => rfl) through
    | refused error => exact inductionHypothesis (fun _ => rfl) through
    | queued => cases through

theorem jobCount_le_place (id : CallId) (queued : Bool) (assignments : List (Assignment Body))
    (floor : Floor Body) :
    floor.jobCount ≤ (floor.place id queued assignments).floor.jobCount := by
  induction assignments generalizing queued floor with
  | nil => exact Nat.le_refl _
  | cons first rest inductionHypothesis =>
    unfold Floor.place
    rcases floor.slots.turn id queued with ⟨turn, slots⟩
    cases turn with
    | admitted =>
      exact Nat.le_trans (Nat.le_succ floor.jobCount)
        (inductionHypothesis false ({ floor with slots := slots }.enlist first))
    | refused error => exact inductionHypothesis false { floor with slots := slots }
    | queued => exact Nat.le_refl _

/-- How a batch is left once its tasks were submitted. -/
theorem parts_submitted (yard : Yard Body) (id : CallId) (batch : Batch Body) :
    Parts id (orders id batch (yard.submitted id batch).1.unsubmitted)
      (yard.submitted id batch).2.floor (yard.pollBatch id batch) := by
  obtain ⟨floor, left, -⟩ :=
    dispatch_place id batch batch.queued batch.unsubmitted yard batch.outcome
  rw [submitted, left, floor]
  exact (yard.places_pollBatch id batch).parts

theorem slots_dispatch_singleton (batch : Batch Body) (entry : Entry Body) (outcome : Outcome) :
    (yard.dispatch id batch false [entry] outcome).2.slots = (yard.slots.ask id).2 := by
  have asks : yard.slots.turn id false = yard.slots.ask id := rfl
  rw [dispatch, asks]
  rcases yard.slots.ask id with ⟨turn, slots⟩
  cases turn <;> rfl

section

variable {later : Yard Body} {entry : Entry Body} {rest : List (Entry Body)} {outcome : Outcome}
  {slots : Slots} (submits : yard.Submits event id batch ready)
  (comes : ready.submitted id batch = later.dispatch id batch false (entry :: rest) outcome)

include submits comes

/-- A task that gets a slot when it is submitted has it once all were. -/
theorem Submits.hires (fresh : ready.jobCount ≤ later.jobCount)
    (told : later.slots.ask id = (.admitted, slots)) :
    yard.Hires event (entry.assignment id batch.scope) := by
  have asks : later.slots.turn id false = (.admitted, slots) := told
  have parts := ready.parts_submitted id batch
  rw [comes, dispatch, asks] at parts
  obtain ⟨others, -, -⟩ := dispatch_place id batch false rest
    ({ later with slots := slots }.enlist (.member id entry.task batch.scope) entry.body) outcome
  refine ⟨⟨⟨later.jobCount⟩, .member id entry.task batch.scope, entry.body, false⟩, ?_,
    submits.jobCount ▸ fresh, rfl⟩
  rw [submits.step, parts.jobs, congrArg Floor.jobs others]
  exact mem_jobs_place false _ (List.mem_append_right _ (List.mem_singleton.mpr rfl))

/-- That a task is refused when it is submitted is noted. -/
theorem Submits.hears {error : PoolError} {refused : List (TaskId × PoolError)}
    (soFar : later.noted = ready.noted ++ refused)
    (told : later.slots.ask id = (.refused error, slots)) :
    yard.Hears event id (entry.assignment id batch.scope) error := by
  have asks : later.slots.turn id false = (.refused error, slots) := told
  obtain ⟨more, noted, -⟩ := noted_dispatch_refused asks batch entry rest outcome
  show (entry.task, error) ∈ yard.refusing id event
  rw [submits.refusing, comes, noted, soFar, submits.noted, List.append_assoc, List.drop_left]
  exact List.mem_append_right _ List.mem_cons_self

/-- A batch that has to wait for a slot for a task does so, unless it goes away. -/
theorem Kept.waits_or_leaves (kept : yard.Kept) (told : later.slots.ask id = (.queued, slots))
    (parked : id ∈ slots.parked) :
    (yard.step event).WaitsFor id (entry.assignment id batch.scope) ∨
      (yard.step event).calls.get? id = none := by
  have asks : later.slots.turn id false = (.queued, slots) := told
  have parts := ready.parts_submitted id batch
  have inOrder := (kept.step event).inOrder
  rw [submits.step] at inOrder ⊢
  rw [comes, dispatch, asks] at parts
  exact (parts.waitsFor parked inOrder).imp_right absent_of_gone

end

/-- A task of a batch is treated like any body for which a slot is asked for the first time. -/
theorem Kept.treats (kept : yard.Kept) (obeys : yard.slots.Obeys options)
    (submits : yard.Submits event id batch ready) {front rest : List (Entry Body)}
    {entry : Entry Body} (order : batch.unsubmitted = front ++ entry :: rest)
    (asked : front = [] → batch.queued = false)
    (through : (ready.dispatch id batch batch.queued front batch.outcome).1.unsubmitted = []) :
    ∃ turn,
      (ready.dispatch id batch batch.queued front batch.outcome).2.slots.Decides options id turn
          (ready.dispatch id batch batch.queued (front ++ [entry]) batch.outcome).2.slots ∧
        yard.Treats event id (entry.assignment id batch.scope) turn := by
  have comes := dispatch_append asked through (entry :: rest)
  rw [← order] at comes
  rw [dispatch_append asked through [entry], slots_dispatch_singleton]
  obtain ⟨placed, -, -⟩ := dispatch_place id batch batch.queued front ready batch.outcome
  obtain ⟨refused, -, soFar, -⟩ := dispatch_learns id batch batch.queued front ready batch.outcome
  generalize ready.dispatch id batch batch.queued front batch.outcome = between at *
  have fresh : ready.jobCount ≤ between.2.jobCount := by
    have grown := jobCount_le_place id batch.queued (orders id batch front) ready.floor
    rwa [← placed] at grown
  have limits : between.2.slots.Obeys options := by
    have still : ready.floor.slots.Obeys options := submits.obeys obeys
    have limited := obeys_place still id batch.queued (orders id batch front)
    rwa [← placed] at limited
  have decides := limits.decides id
  rcases told : between.2.slots.ask id with ⟨turn, slots⟩
  rw [told] at decides
  refine ⟨turn, decides, ?_⟩
  cases turn with
  | admitted => exact .admitted (submits.hires comes fresh told)
  | refused error => exact .refused (submits.hears comes soFar told)
  | queued =>
    rcases kept.waits_or_leaves submits comes told decides.mem_parked with waits | gone
    · exact .queued waits
    · exact .leaves gone

end

/-! ### Who gets in -/

/-- What a yard that was opened with some options promises to those that ask for slots after a
history. -/
structure LetsIn (start : Yard Body) (options : Options) (history : List (Event Body)) : Prop where
  /-- No more wait than may. -/
  bounded : 0 < options.queueLimit → (start.after history).slots.waiting ≤ options.queueLimit
  /-- Nobody waits for slots that do not block. -/
  nobody : options.nonblocking = true → (start.after history).slots.waiting = 0
  /-- Whoever asks for a slot for a body is told at once what becomes of it. -/
  submits : ∀ body, ∃ turn slots,
    (start.after history).slots.Decides options ⟨(start.after history).callCount⟩ turn slots ∧
      ((start.after history).begin (.submit body)).2 =
        ((start.after history).prepared (.submit body)).entering
          ⟨(start.after history).callCount⟩ body slots turn
  /-- It is no different if the output of the body is wanted, as long as the scope goes on. -/
  commissions : ∀ scope body, (start.after history).ended? scope = none → ∃ turn slots,
    (start.after history).slots.Decides options ⟨(start.after history).callCount⟩ turn slots ∧
      ((start.after history).begin (.submitTask scope body)).2 =
        ((start.after history).prepared (.submitTask scope body)).commissioned
          ⟨(start.after history).callCount⟩ scope body slots turn
  /-- Nor for a task of a batch, in the slots as the tasks before it have left them. -/
  tasks : ∀ event id batch ready, (start.after history).Submits event id batch ready →
    ∀ front entry rest, batch.unsubmitted = front ++ entry :: rest →
      (front = [] → batch.queued = false) →
      (ready.dispatch id batch batch.queued front batch.outcome).1.unsubmitted = [] →
      ∃ turn,
        (ready.dispatch id batch batch.queued front batch.outcome).2.slots.Decides options id turn
            (ready.dispatch id batch batch.queued (front ++ [entry]) batch.outcome).2.slots ∧
          (start.after history).Treats event id (entry.assignment id batch.scope) turn
  /-- A task that was refused never starts. -/
  refused : ∀ event id task error, (task, error) ∈ (start.after history).refusing id event →
    ∀ later, task ∉ start.startedTasks (history ++ event :: later)
  /-- Whoever waits gets a slot, is refused because the slots were closed, or goes away, unless it
  waits on. -/
  waits : ∀ id first, (start.after history).WaitsFor id first → ∀ later,
    (start.after (history ++ later)).WaitsFor id first ∨ ∃ earlier event rest,
      later = earlier ++ event :: rest ∧
        (start.after (history ++ earlier)).WaitsFor id first ∧
        (start.after (history ++ earlier)).Resolves id first event
  /-- Whoever waits is never told that there is no room. -/
  certain : ∀ id first event error, (start.after history).WaitsFor id first →
    (start.after history).Hears event id first error → error = .closed

/-- Whoever asks for a slot gets one, has to wait or is refused one by the rules. -/
theorem letsIn (opened : openNoted? options = .ok start) (history : List (Event Body)) :
    start.LetsIn options history := by
  have kept := (kept_of_opened opened).1.after history
  have obeys := obeys_after opened history
  exact {
    bounded := obeys.bounded
    nobody := obeys.nobody
    submits := kept.begin_submit obeys
    commissions := fun scope body going => kept.begin_submitTask obeys going body
    tasks := fun event id batch ready submits front entry rest order asked through =>
      kept.treats obeys submits order asked through
    refused := fun event id task error told => not_mem_of_refusing opened told
    waits := fun id first waits later => by
      simp only [after_append]
      exact kept.waits_after waits later
    certain := fun id first event error waits hears => kept.eq_closed_of_hears waits hears }

/-- One body has the only slot, and one may wait. -/
def narrow : Options := { Options.ofCapacity 1 with queueLimit := 1 }

/-- A second body waits, and a third one is refused. -/
theorem letsIn_narrow : ∃ start : Yard Unit, openNoted? narrow = .ok start ∧
    (start.after [.begin (.submit ()), .begin (.submit ())]).slots.waiting = 1 ∧
    ((start.after [.begin (.submit ()), .begin (.submit ())]).begin (.submit ())).2.1 =
      some (.submitted (.error (.saturated 1))) ∧
    start.LetsIn narrow [.begin (.submit ()), .begin (.submit ())] := by
  have run : ∃ start : Yard Unit, openNoted? narrow = .ok start ∧
      (start.after [.begin (.submit ()), .begin (.submit ())]).slots.waiting = 1 ∧
      ((start.after [.begin (.submit ()), .begin (.submit ())]).begin (.submit ())).2.1 =
        some (.submitted (.error (.saturated 1))) := ⟨_, rfl, rfl, rfl⟩
  obtain ⟨start, opened, waiting, refused⟩ := run
  exact ⟨start, opened, waiting, refused, letsIn opened _⟩

end Yard

end Taskyard

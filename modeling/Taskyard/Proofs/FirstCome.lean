/-
This file shows that whoever comes first is served first. While a call is in the
queue of the slots nobody can take a slot, so the only ones that get one are
those to whom slots that come back are handed, and these stand before the call
in the line. No event lets anybody get past it: not one that has just begun and
asks for the first time, not a batch that asks again for its next task, and not
whoever would profit from others that go away.
-/

import Taskyard.Proofs.Chronicle
import Taskyard.Proofs.Line
import Taskyard.Proofs.Order.Bystanders
import Taskyard.Proofs.Order.Placing

namespace Taskyard

variable {Body : Type}

namespace Yard

variable {yard : Yard Body} {id call : CallId}

/-- The call that an event is about, be it one that has just begun. -/
def caller? (yard : Yard Body) : Event Body → Option CallId
  | .begin _ => some ⟨yard.callCount⟩
  | event => event.call?

/-- The calls that get a slot at an event: those to whom one is handed while they are in the queue,
and the one that takes one for a body. -/
def obtaining (yard : Yard Body) (event : Event Body) : List CallId :=
  ((yard.step event).slots.granted.filter fun call => call ∉ yard.slots.granted) ++
    if yard.jobCount < (yard.step event).jobCount then (yard.caller? event).toList else []

/-! ### A call that is dealt with -/

theorem advances_place (id : CallId) (queued : Bool) (assignments : List (Assignment Body))
    (floor : Floor Body) :
    Advances (some id) floor.slots.line (floor.place id queued assignments).floor.slots.line := by
  induction assignments generalizing queued floor with
  | nil => exact .of_sublist (List.Sublist.refl _)
  | cons first rest inductionHypothesis =>
    have asks := floor.slots.advances_turn id queued
    unfold Floor.place
    rcases told : floor.slots.turn id queued with ⟨turn, slots⟩
    rw [told] at asks
    cases turn with
    | admitted => exact asks.trans (inductionHypothesis false _)
    | refused error => exact asks.trans (inductionHypothesis false _)
    | queued => exact asks

theorem granted_place (id : CallId) (queued : Bool) (assignments : List (Assignment Body))
    (floor : Floor Body) :
    (floor.place id queued assignments).floor.slots.granted ⊆ floor.slots.granted := by
  induction assignments generalizing queued floor with
  | nil => exact List.Subset.refl _
  | cons first rest inductionHypothesis =>
    have asks := floor.slots.granted_turn id queued
    unfold Floor.place
    rcases told : floor.slots.turn id queued with ⟨turn, slots⟩
    rw [told] at asks
    cases turn with
    | admitted => exact List.Subset.trans (inductionHypothesis false _) asks
    | refused error => exact List.Subset.trans (inductionHypothesis false _) asks
    | queued => exact asks

/-- A call that has asked for slots has taken the one that was handed to it, so that it has none to
hand on when it goes away. -/
theorem not_mem_granted_place (id : CallId) (queued : Bool) (assignments : List (Assignment Body))
    (floor : Floor Body) (sound : floor.slots.Sound)
    (known : id ∈ floor.slots.parked ↔ queued = true)
    (pressing : queued = true → assignments ≠ []) :
    id ∉ (floor.place id queued assignments).floor.slots.granted := by
  induction assignments generalizing queued floor with
  | nil => exact fun handed => pressing (known.mp (List.mem_append_right _ handed)) rfl
  | cons first rest inductionHypothesis =>
    have heard := Slots.heard_turn sound known
    unfold Floor.place
    rcases told : floor.slots.turn id queued with ⟨turn, slots⟩
    rw [told] at heard
    cases turn with
    | admitted =>
      exact inductionHypothesis false _ heard.sound (by simpa [Floor.enlist] using heard.parked)
        (by simp)
    | refused error =>
      exact inductionHypothesis false _ heard.sound (by simpa using heard.parked) (by simp)
    | queued =>
      have news := heard.news rfl
      simp only [Slots.hasNews, Bool.or_eq_false_iff, List.contains_eq_mem,
        decide_eq_false_iff_not] at news
      exact news.2

/-- Nobody gets a slot where there is none to take, unless one was handed to them. -/
theorem jobCount_place (id : CallId) (queued : Bool) (assignments : List (Assignment Body))
    (floor : Floor Body) (spent : floor.slots.IsSpent)
    (unhanded : queued = true → id ∉ floor.slots.granted) :
    (floor.place id queued assignments).floor.jobCount = floor.jobCount := by
  induction assignments generalizing queued floor with
  | nil => rfl
  | cons first rest inductionHypothesis =>
    have outside := spent.not_admitted unhanded
    have stillSpent := spent.turn id queued
    unfold Floor.place
    rcases told : floor.slots.turn id queued with ⟨turn, slots⟩
    rw [told] at outside stillSpent
    cases turn with
    | admitted => exact absurd rfl outside
    | refused error =>
      exact inductionHypothesis false { floor with slots := slots } stillSpent (by simp)
    | queued => rfl

/-- A call to which a slot was handed gets no other one where there is none to take. -/
theorem jobCount_place_cases (id : CallId) (queued : Bool) (assignments : List (Assignment Body))
    (floor : Floor Body) (spent : floor.slots.IsSpent) :
    (floor.place id queued assignments).floor.jobCount = floor.jobCount ∨
      (floor.place id queued assignments).floor.jobCount = floor.jobCount + 1 ∧
        queued = true ∧ id ∈ floor.slots.granted := by
  by_cases handed : queued = true ∧ id ∈ floor.slots.granted
  · cases assignments with
    | nil => exact .inl rfl
    | cons first rest =>
      have stillSpent := spent.turn id queued
      unfold Floor.place
      rcases told : floor.slots.turn id queued with ⟨turn, slots⟩
      rw [told] at stillSpent
      -- Whatever the rest of the call asks for, it asks for the first time.
      have later : ∀ between : Floor Body, between.slots = slots →
          (between.place id false rest).floor.jobCount = between.jobCount := fun between same =>
        jobCount_place id false rest between (same ▸ stillSpent) (by simp)
      cases turn with
      | admitted => exact .inr ⟨later _ rfl, handed⟩
      | refused error => exact .inl (later _ rfl)
      | queued => exact .inl rfl
  · exact .inl (jobCount_place id queued assignments floor spent
      fun waits member => handed ⟨waits, member⟩)

theorem slots_place_closed (id : CallId) (assignments : List (Assignment Body))
    (floor : Floor Body) (closed : floor.slots.closed = true) :
    (floor.place id false assignments).floor.slots = floor.slots := by
  induction assignments with
  | nil => rfl
  | cons first rest inductionHypothesis =>
    have told : floor.slots.turn id false = (.refused .closed, floor.slots) := by
      simp [Slots.turn, Slots.ask, closed]
    simp only [Floor.place, told]
    exact inductionHypothesis

/-- A call that is in the queue stays where it is, or does not wait for a slot any more. -/
theorem slots_place_queued (id : CallId) (assignments : List (Assignment Body))
    (floor : Floor Body) (sound : floor.slots.Sound) (queued : id ∈ floor.slots.queue) :
    (floor.place id true assignments).floor.slots = floor.slots ∨
      id ∉ (floor.place id true assignments).floor.slots.parked := by
  cases assignments with
  | nil => exact .inl rfl
  | cons first rest =>
    have again : floor.slots.turn id true = floor.slots.askAgain id := if_pos rfl
    rcases floor.slots.askAgain_cases id with ⟨closed, told⟩ | ⟨-, handed, -⟩ | ⟨-, -, told⟩
    · have stillClosed := (floor.slots.withdraw_frame id).2.1.trans closed
      simp only [Floor.place, again, told]
      rw [slots_place_closed id rest { floor with slots := floor.slots.withdraw id } stillClosed]
      exact .inr (by simp [Slots.mem_parked_withdraw sound.distinct])
    · exact absurd handed (List.disjoint_of_nodup_append sound.distinct queued)
    · refine .inl ?_
      simp only [Floor.place, again, told]

theorem Parts.slots {left : List (Assignment Body)} {floor : Floor Body}
    {result : Option Reply × Yard Body} (parts : Parts id left floor result) :
    result.2.slots = floor.slots ∨ result.2.slots = floor.slots.withdraw id := by
  cases parts with
  | gone same => exact .inr (congrArg Floor.slots same)
  | kept assignments same => exact .inl (congrArg Floor.slots same)

theorem Parts.jobCount {left : List (Assignment Body)} {floor : Floor Body}
    {result : Option Reply × Yard Body} (parts : Parts id left floor result) :
    result.2.jobCount = floor.jobCount := by
  cases parts with
  | gone same => exact congrArg Floor.jobCount same
  | kept assignments same => exact congrArg Floor.jobCount same

section

variable {queued : Bool} {assignments : List (Assignment Body)} {before : Yard Body}
  {result : Option Reply × Yard Body} (places : Places id queued assignments before result)

include places

/-- Dealing with a call lets nobody past those that wait. -/
theorem Places.advances : Advances (some id) before.slots.line result.2.slots.line := by
  have placed : Advances (some id) before.slots.line _ :=
    advances_place id queued assignments before.floor
  rcases places.parts.slots with same | withdrawn
  · rwa [same]
  · rw [withdrawn]
    exact placed.trans (Slots.advances_withdraw _ id)

/-- Dealing with a call hands no slot to anybody. -/
theorem Places.granted (sound : before.slots.Sound)
    (known : id ∈ before.slots.parked ↔ queued = true)
    (pressing : queued = true → assignments ≠ []) :
    result.2.slots.granted ⊆ before.slots.granted := by
  have placed : _ ⊆ before.slots.granted := granted_place id queued assignments before.floor
  have unhanded := not_mem_granted_place id queued assignments before.floor sound known pressing
  rcases places.parts.slots with same | withdrawn
  · rwa [same]
  · rw [withdrawn, Slots.withdraw, if_neg unhanded]
    split <;> exact placed

/-- A call that is in the queue and dealt with stays where it is, or does not wait any more. -/
theorem Places.still (sound : before.slots.Sound)
    (known : id ∈ before.slots.parked ↔ queued = true) (waits : id ∈ before.slots.queue) :
    result.2.slots = before.slots ∨ id ∉ result.2.slots.parked := by
  obtain rfl : queued = true := known.mp (List.mem_append_left _ waits)
  have outside : id ∉ (before.slots.withdraw id).parked := by
    simp [Slots.mem_parked_withdraw sound.distinct]
  rcases slots_place_queued id assignments before.floor sound waits with same | gone <;>
    rcases places.parts.slots with kept | withdrawn
  · exact .inl (kept.trans same)
  · rw [withdrawn, same]
    exact .inr outside
  · rw [kept]
    exact .inr gone
  · rw [withdrawn, Slots.withdraw_of_not_mem gone]
    exact .inr gone

/-- A call that was dealt with where there is no slot to take has got the one that was handed to
it, or none. -/
theorem Places.jobCount (spent : before.slots.IsSpent) :
    result.2.jobCount = before.jobCount ∨
      result.2.jobCount = before.jobCount + 1 ∧ queued = true ∧ id ∈ before.slots.granted := by
  rw [places.parts.jobCount]
  exact jobCount_place_cases id queued assignments before.floor spent

end

/-! ### What an event does to the slots -/

/-- What an event may do to the slots. Only a call that is dealt with may get a job, and it is dealt
with in a yard that has everybody still where they were. -/
inductive Touches (yard : Yard Body) (event : Event Body) : Prop
  | nothing (same : (yard.step event).slots = yard.slots)
      (count : (yard.step event).jobCount = yard.jobCount)
  | leave (left : (yard.step event).slots = yard.slots.leave)
      (count : (yard.step event).jobCount = yard.jobCount)
  | close (closed : (yard.step event).slots = yard.slots.close)
      (count : (yard.step event).jobCount = yard.jobCount)
  | withdraw {id : CallId} (own : yard.caller? event = some id)
      (gone : (yard.step event).slots = yard.slots.withdraw id)
      (count : (yard.step event).jobCount = yard.jobCount)
  | deal {id : CallId} {queued : Bool} {assignments : List (Assignment Body)} {before : Yard Body}
      {result : Option Reply × Yard Body} (own : yard.caller? event = some id)
      (dealt : yard.step event = result.2) (queue : before.slots.queue = yard.slots.queue)
      (granted : before.slots.granted = yard.slots.granted)
      (count : before.jobCount = yard.jobCount) (sound : before.slots.Sound)
      (known : id ∈ before.slots.parked ↔ queued = true)
      (pressing : queued = true → assignments ≠ [])
      (places : Places id queued assignments before result)

theorem slots_retire (yard : Yard Body) (job : Job Body) (output : Output) :
    (yard.retire job output).slots = yard.slots.leave := by
  unfold retire
  split <;> rfl

theorem jobCount_retire (yard : Yard Body) (job : Job Body) (output : Output) :
    (yard.retire job output).jobCount = yard.jobCount := by
  unfold retire
  split <;> rfl

/-- A job that is over leaves its slot, and there is no other job for it. -/
theorem touches_retire {event : Event Body} {before : Yard Body} {job : Job Body} {output : Output}
    (retired : yard.step event = before.retire job output) (same : before.floor = yard.floor) :
    yard.Touches event := by
  have slots : before.slots = yard.slots := congrArg Floor.slots same
  have count : before.jobCount = yard.jobCount := congrArg Floor.jobCount same
  refine .leave ?_ ?_
  · rw [retired, slots_retire, slots]
  · rw [retired, jobCount_retire, count]

/-- A call that waits for a slot has a body for it. -/
theorem assignments_ne_nil {call : Call Body} {staff : List Purpose} (fits : call.Fits id staff)
    (parked : call.isParked = true) : call.assignments id ≠ [] := by
  cases call with
  | submit body => exact List.cons_ne_nil _ _
  | soloQueued scope body => exact List.cons_ne_nil _ _
  | batch held => simpa [Call.assignments] using fits.1.pressing parked
  | solo | drain | watch => cases parked

theorem Kept.touches_begin (kept : yard.Kept) (request : Request Body) :
    yard.Touches (.begin request) := by
  have places := kept.places_begin request
  obtain ⟨outside, -, -⟩ := kept.inOrder.fresh
  rw [← parked_prepared request] at outside
  have sound := (kept.inOrder.prepare request).slots
  have known : ⟨yard.callCount⟩ ∈ (yard.prepared request).slots.parked ↔ false = true :=
    iff_of_false outside Bool.false_ne_true
  refine .deal rfl rfl ?_ ?_ ?_ sound known (fun waits => by cases waits) places <;>
    cases request <;> rfl

theorem Kept.touches (kept : yard.Kept) (event : Event Body) : yard.Touches event := by
  have unmoved : yard.step event = yard → yard.Touches event := fun same =>
    .nothing (by rw [same]) (by rw [same])
  cases event with
  | tick moment =>
    obtain ⟨now, -, moved⟩ := advanceTo_eq yard moment
    exact .nothing (by rw [Yard.step, moved]) (by rw [Yard.step, moved])
  | push scope label body =>
    obtain ⟨scopes, backlog, taskCount, journal, -, pushed⟩ := push_eq yard scope label body
    exact .nothing (by rw [Yard.step, pushed]) (by rw [Yard.step, pushed])
  | release => exact .close rfl rfl
  | begin request => exact kept.touches_begin request
  | poll id =>
    cases found : yard.calls.get? id with
    | none => exact unmoved (by rw [Yard.step, poll_of_absent found])
    | some call =>
      have known : id ∈ yard.slots.parked ↔ call.isParked = true := by
        simp [kept.inOrder.parked id (by simp), found]
      have fits := kept.inOrder.fits id call (by simp) found
      exact .deal rfl rfl rfl rfl rfl kept.inOrder.slots known (assignments_ne_nil fits)
        (places_poll found)
  | drop id => exact .withdraw rfl rfl rfl
  | finish job ending =>
    rcases finishJob_cases yard job ending with same | ⟨_, -, -, -, journal, reported, retired⟩
    · exact unmoved same
    · exact touches_retire retired rfl
  | abandon job =>
    rcases abandonJob_cases yard job with same | ⟨_, -, -, call, task, scope, reason, -, -, retired⟩
    · exact unmoved same
    · exact touches_retire retired rfl
  | openScope | cancel | query | discard | setTimeout | start => exact .nothing rfl rfl

/-- Whatever happens, those that wait keep their order, and whoever joins them does so at the
end. -/
theorem Kept.advances (kept : yard.Kept) (event : Event Body) :
    Advances (yard.caller? event) yard.slots.line (yard.step event).slots.line := by
  have stays : ∀ {caller : Option CallId} {line : List CallId}, line = yard.slots.line →
      Advances caller yard.slots.line line :=
    fun same => same ▸ .of_sublist (List.Sublist.refl _)
  cases kept.touches event with
  | nothing same => exact stays (by rw [same])
  | leave left => exact stays (by rw [left, Slots.line_leave])
  | close closed => exact stays (by rw [closed]; rfl)
  | withdraw own gone =>
    rw [own, gone]
    exact yard.slots.advances_withdraw _
  | deal own dealt queue granted count sound known pressing places =>
    have advances := places.advances
    rw [Slots.line, queue, granted] at advances
    rw [own, dealt]
    exact advances

/-- Whatever happens, a slot is handed to nobody but the first in the queue. -/
theorem Kept.handed (kept : yard.Kept) {event : Event Body} {other : CallId}
    (handed : other ∈ (yard.step event).slots.granted) :
    other ∈ yard.slots.granted ∨ yard.slots.queue.head? = some other := by
  cases kept.touches event with
  | nothing same =>
    rw [same] at handed
    exact .inl handed
  | leave left =>
    rw [left] at handed
    exact Slots.mem_granted_leave handed
  | close closed =>
    rw [closed] at handed
    exact .inl handed
  | withdraw own gone =>
    rw [gone] at handed
    exact Slots.mem_granted_withdraw handed
  | deal own dealt queue granted count sound known pressing places =>
    rw [dealt] at handed
    exact .inl (granted ▸ places.granted sound known pressing handed)

/-! ### While a call is in the queue -/

/-- Nobody gets ahead of a call that stays in the queue. -/
theorem Kept.aheadOf_step (kept : yard.Kept) {event : Event Body}
    (waits : call ∈ yard.slots.queue) (still : call ∈ (yard.step event).slots.queue) :
    (aheadOf call (yard.step event).slots.line).Sublist (aheadOf call yard.slots.line) := by
  have member : call ∈ (yard.step event).slots.line := List.mem_append_right _ still
  have parked : call ∈ (yard.step event).slots.parked := List.mem_append_left _ still
  have distinct := kept.inOrder.slots.distinct
  by_cases own : yard.caller? event = some call
  -- The event is about the call itself, which cannot join the line again behind its own back.
  · cases kept.touches event with
    | nothing same => rw [same]
    | leave left => rw [left, Slots.line_leave]
    | close closed =>
      rw [closed]
      exact List.Sublist.refl _
    | withdraw same gone =>
      cases own.symm.trans same
      simp [gone, Slots.mem_parked_withdraw distinct] at parked
    | deal same dealt queue granted count sound known pressing places =>
      cases own.symm.trans same
      rcases places.still sound known (queue ▸ waits) with unmoved | left
      · rw [dealt, unmoved, Slots.line, queue, granted, Slots.line]
      · exact absurd (dealt ▸ parked) left
  · exact (kept.advances event).aheadOf kept.inOrder.slots.nodup_line member own

/-- While somebody is in the queue nobody gets a job, but for a call to which a slot was handed, and
that gets one. -/
theorem Kept.jobCount_step (kept : yard.Kept) (waits : yard.slots.queue ≠ [])
    (event : Event Body) : (yard.step event).jobCount = yard.jobCount ∨
      (yard.step event).jobCount = yard.jobCount + 1 ∧
        ∃ other ∈ yard.slots.granted, yard.caller? event = some other := by
  cases kept.touches event with
  | nothing _ count | leave _ count | close _ count | withdraw _ _ count => exact .inl count
  | deal own dealt queue granted count sound known pressing places =>
    rw [dealt, ← count, ← granted]
    rw [← queue] at waits
    refine (places.jobCount (sound.isSpent waits)).imp_right ?_
    rintro ⟨more, -, handed⟩
    exact ⟨more, _, handed, own⟩

/-- Only those that are ahead of a call that is in the queue get a slot, or the call itself. -/
theorem Kept.obtaining_step (kept : yard.Kept) {event : Event Body}
    (waits : call ∈ yard.slots.queue) {other : CallId} (obtains : other ∈ yard.obtaining event) :
    other ∈ aheadOf call yard.slots.line ∨ other = call := by
  have sound := kept.inOrder.slots
  rcases List.mem_append.mp obtains with handed | taken
  · obtain ⟨now, before⟩ := List.mem_filter.mp handed
    have head := (kept.handed now).resolve_left (of_decide_eq_true before)
    exact sound.head_aheadOf waits head
  · split at taken
    · next more =>
      have own := Option.mem_toList.mp taken
      rcases kept.jobCount_step (List.ne_nil_of_mem waits) event with
        none | ⟨-, first, handed, same⟩
      · exact absurd more (Nat.not_lt_of_le (Nat.le_of_eq none))
      · cases own.symm.trans same
        rw [sound.aheadOf_line waits]
        exact .inl (List.mem_append_left _ handed)
    · cases taken

/-- Whether a call is in the queue whenever one of these events happens. -/
def Queues (yard : Yard Body) (later : List (Event Body)) (call : CallId) : Prop :=
  ∀ earlier event rest, later = earlier ++ event :: rest →
    call ∈ (yard.after earlier).slots.queue

theorem Queues.waits {later : List (Event Body)} {other : CallId} (queues : yard.Queues later call)
    (obtains : other ∈ yard.chronicle obtaining later) : call ∈ yard.slots.queue := by
  cases later with
  | nil => cases obtains
  | cons event later => exact queues [] event later rfl

/-- As long as a call is in the queue, only those get a slot that were ahead of it, or the call
itself. -/
theorem Kept.obtaining_after (kept : yard.Kept) {later : List (Event Body)}
    (queues : yard.Queues later call) {other : CallId}
    (obtains : other ∈ yard.chronicle obtaining later) :
    other ∈ aheadOf call yard.slots.line ∨ other = call := by
  induction later generalizing yard with
  | nil => cases obtains
  | cons event later inductionHypothesis =>
    have waits := queues.waits obtains
    rcases List.mem_append.mp obtains with atOnce | afterwards
    · exact kept.obtaining_step waits atOnce
    · cases later with
      | nil => cases afterwards
      | cons next later =>
        -- What is ahead of the call only shrinks, so who gets a slot later was ahead all along.
        have still : call ∈ (yard.step event).slots.queue := queues [event] next later rfl
        refine (inductionHypothesis (kept.step event) ?_ afterwards).imp_left fun ahead =>
          (kept.aheadOf_step waits still).subset ahead
        exact fun earlier other rest split =>
          queues (event :: earlier) other rest (congrArg (event :: ·) split)

/-! ### First come, first served -/

/-- What is promised to those that wait for a slot, whatever happens next. -/
structure ServesInTurn (yard : Yard Body) : Prop where
  /-- While somebody is in the queue no slot lies at hand, and nobody who asks gets one. -/
  noIdle : yard.slots.queue ≠ [] → (yard.slots.closed = false → yard.slots.free = 0) ∧
    ∀ call, (yard.slots.ask call).1 ≠ .admitted
  /-- Those that wait keep their order, and whoever joins them does so at the end. -/
  joins : ∀ event, Advances (yard.caller? event) yard.slots.line (yard.step event).slots.line
  /-- A slot is handed to nobody but the first in the queue. -/
  handed : ∀ event, ∀ call ∈ (yard.step event).slots.granted, call ∉ yard.slots.granted →
    yard.slots.queue.head? = some call
  /-- While somebody is in the queue, a call takes no slot but the one that was handed to it, and a
  call takes one at a time. -/
  takesOwn : yard.slots.queue ≠ [] → ∀ event, (yard.step event).jobCount = yard.jobCount ∨
    (yard.step event).jobCount = yard.jobCount + 1 ∧
      ∃ call ∈ yard.slots.granted, yard.caller? event = some call
  /-- As long as a call is in the queue, only those get a slot that were ahead of it, until it gets
  one itself. -/
  inTurn : ∀ later call, yard.Queues later call → ∀ other ∈ yard.chronicle obtaining later,
    other ∈ aheadOf call yard.slots.line ∨ other = call
  /-- A call that begins while another one is in the queue does not get a slot before that one. -/
  latecomer : ∀ later call other, yard.Queues later call → yard.callCount ≤ other.serial →
    other ∉ yard.chronicle obtaining later
  /-- Of two calls that wait, the one that joined first is the first to get a slot. -/
  firstCome : ∀ later first second, yard.Queues later first →
    first ∈ aheadOf second yard.slots.line → second ∉ yard.chronicle obtaining later
  /-- When a call is dropped that was handed a slot and has not come back for it, the slot goes to
  the one that has waited longest. -/
  handsOver : ∀ call next rest, yard.slots.closed = false → call ∈ yard.slots.granted →
    yard.slots.queue = next :: rest →
    (yard.step (.drop call)).slots.granted = yard.slots.granted.erase call ++ [next] ∧
      (yard.step (.drop call)).slots.queue = rest

/-- A call that is in the queue was numbered. -/
theorem Kept.known_of_parked (kept : yard.Kept) (parked : call ∈ yard.slots.parked) :
    call.serial < yard.callCount := by
  obtain ⟨held, found, -⟩ := (kept.inOrder.parked call (by simp)).mp parked
  exact kept.inOrder.numbered found

/-- Slots are given in the order in which they were asked for. -/
theorem servesInTurn {options : Options} (reached : Reached options yard) :
    yard.ServesInTurn := by
  have kept := reached.kept.1
  have sound := kept.inOrder.slots
  exact {
    noIdle := fun waiting => ⟨fun opened => sound.fair opened waiting, fun call =>
      ((sound.isSpent waiting).ask call).1⟩
    joins := kept.advances
    handed := fun event call handed fresh => (kept.handed handed).resolve_left fresh
    takesOwn := kept.jobCount_step
    inTurn := fun later call queues other => kept.obtaining_after queues
    latecomer := fun later call other queues late obtains => by
      have waits := queues.waits obtains
      have known : other.serial < yard.callCount := by
        rcases kept.obtaining_after queues obtains with ahead | same
        · exact kept.known_of_parked (Slots.mem_line.mp (mem_of_aheadOf ahead))
        · exact same ▸ kept.known_of_parked (List.mem_append_left _ waits)
      exact Nat.lt_irrefl _ (Nat.lt_of_lt_of_le known late)
    firstCome := fun later first second queues ahead obtains => by
      rcases kept.obtaining_after queues obtains with before | same
      · exact not_mem_aheadOf sound.nodup_line ahead before
      · exact ne_of_aheadOf ahead same.symm
    handsOver := fun call next rest opened handed waits =>
      Slots.withdraw_of_granted opened handed waits }

/-- Three calls ask for the only slot; a fourth one comes when the first body has ended. -/
def latecoming : List (Event Unit) :=
  [.start ⟨0⟩, .finish ⟨0⟩ (.panicked .other), .begin (.submit ()), .drop ⟨1⟩, .poll ⟨2⟩]

/-- The slot of the first call goes to the second, which is dropped, and then to the third. -/
theorem servesInTurn_latecoming : ∃ yard : Yard Unit, Reached (.ofCapacity 1) yard ∧
    yard.slots.queue = [⟨1⟩, ⟨2⟩] ∧ yard.chronicle obtaining latecoming = [⟨1⟩, ⟨2⟩, ⟨2⟩] ∧
    yard.ServesInTurn := by
  have run : ∃ yard : Yard Unit, Reached (.ofCapacity 1) yard ∧ yard.slots.queue = [⟨1⟩, ⟨2⟩] ∧
      yard.chronicle obtaining latecoming = [⟨1⟩, ⟨2⟩, ⟨2⟩] :=
    ⟨_, ⟨_, [.openScope .root, .begin (.submit ()), .begin (.submitTask ⟨1⟩ ()),
      .begin (.submit ())], rfl, rfl⟩, rfl, rfl⟩
  obtain ⟨yard, reached, queue, obtains⟩ := run
  exact ⟨yard, reached, queue, obtains, servesInTurn reached⟩

end Yard

end Taskyard

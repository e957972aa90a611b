/-
This file says what whoever closes the slots and waits for every body to end may
rely on. It is told that all have ended, and then nobody has a slot any more nor
ever gets one; or that its timeout is over, and then somebody still has a slot
and keeps it. If the clock waits for those who have something to look at, the
second comes at the first whole millisecond at which the timeout is over. One of
the two comes at the latest when the call is looked at after that, whatever the
bodies do and whoever else waits, asks for slots or closes them again.

A timeout may lie so far ahead that the clock cannot count to it. It is then
never over, as the clock never shows its end.
-/

import Taskyard.Proofs.Finality
import Taskyard.Proofs.Timeouts

namespace Taskyard

variable {Body : Type}

namespace Yard

variable {yard start : Yard Body} {id : CallId} {before history : List (Event Body)}
  {timeout : Duration} {deadline : Option Duration} {reply : Reply}

/-! ### Looking -/

/-- What a call that waits for every job to end is told, given its timeout and the end of it. -/
inductive Drained (yard : Yard Body) (timeout : Duration) (deadline : Option Duration) :
    Reply → Prop
  | ended (empty : yard.jobs = []) : Drained yard timeout deadline (.drained (.ok ()))
  | late (busy : yard.jobs ≠ []) (past : yard.hasPassed deadline = true) :
      Drained yard timeout deadline (.drained (.error (.releaseTimeout timeout)))

theorem drained_pollDrain (told : (yard.pollDrain id timeout deadline).1 = some reply) :
    yard.Drained timeout deadline reply := by
  unfold pollDrain at told
  split at told
  · next empty =>
    cases told
    exact .ended (List.isEmpty_iff.mp empty)
  · next busy =>
    split at told
    · next past =>
      cases told
      exact .late (fun empty => busy (List.isEmpty_iff.mpr empty)) past
    · cases told

theorem isSome_pollDrain (id : CallId) (timeout : Duration)
    (due : yard.jobs = [] ∨ yard.hasPassed deadline = true) :
    (yard.pollDrain id timeout deadline).1.isSome := by
  unfold pollDrain
  split
  · rfl
  · next busy =>
    rcases due with empty | past
    · exact absurd (List.isEmpty_iff.mpr empty) busy
    · rw [if_pos past]
      rfl

/-- Whoever looks leaves the jobs as they are. -/
theorem jobs_pollDrain (yard : Yard Body) (id : CallId) (timeout : Duration)
    (deadline : Option Duration) :
    (yard.pollDrain id timeout deadline).2.jobs = yard.jobs := by
  unfold pollDrain
  repeat' split
  all_goals rfl

/-- Whoever begins to wait for every job to end closes the slots and looks. -/
theorem begin_drain (yard : Yard Body) (timeout : Duration) : (yard.begin (.drain timeout)).2 =
    (yard.prepared (.drain timeout)).pollDrain ⟨yard.callCount⟩ timeout
      (yard.now.after? timeout) := rfl

theorem Kept.closed_begin_drain (kept : yard.Kept) (timeout : Duration) :
    (yard.begin (.drain timeout)).2.2.slots.closed = true :=
  congrArg Surroundings.closed (kept.surroundings_begin (.drain timeout))

/-- A call that waits for every job to end looks whenever it is polled. -/
theorem Kept.poll_drain (kept : yard.Kept) {between : List (Event Body)} {call : Call Body}
    (found : ((yard.begin (.drain timeout)).2.2.after between).calls.get? ⟨yard.callCount⟩ =
      some call) :
    ((yard.begin (.drain timeout)).2.2.after between).poll ⟨yard.callCount⟩ =
      ((yard.begin (.drain timeout)).2.2.after between).pollDrain ⟨yard.callCount⟩ timeout
        (yard.now.after? timeout) := by
  have requested := Option.some.inj (kept.begun_after found)
  rw [Yard.poll, found]
  cases call with
  | drain =>
    cases requested
    rfl
  | _ => cases requested

/-- Whoever waits for every job to end is told what it sees, and changes nothing about the jobs. -/
theorem Kept.drained (kept : yard.Kept)
    (answered : yard.Answered (.drain timeout) reply history) :
    ∃ earlier last, history = earlier ++ [last] ∧
      (yard.after earlier).Drained timeout (yard.now.after? timeout) reply ∧
      (yard.after history).jobs = (yard.after earlier).jobs := by
  cases answered with
  | atOnce replied =>
    rw [begin_drain] at replied
    refine ⟨[], .begin (.drain timeout), rfl, ?_, ?_⟩
    · cases drained_pollDrain replied with
      | ended empty => exact .ended empty
      | late busy past => exact .late busy past
    · exact jobs_pollDrain (yard.prepared (.drain timeout)) _ timeout _
  | @inPoll between replied =>
    refine ⟨.begin (.drain timeout) :: between, _, rfl, ?_⟩
    rw [after_concat, after_cons, Yard.step, Yard.step]
    have replied : (((yard.begin (.drain timeout)).2.2.after between).poll
      ⟨yard.callCount⟩).1 = some reply := replied
    cases found : ((yard.begin (.drain timeout)).2.2.after between).calls.get?
        ⟨yard.callCount⟩ with
    | none => simp [poll_of_absent found] at replied
    | some call =>
      have looks := kept.poll_drain found
      rw [looks] at replied
      exact ⟨drained_pollDrain replied, (congrArg (·.2.jobs) looks).trans (jobs_pollDrain _ _ _ _)⟩

/-! ### Being answered -/

/-- A call that is gone though nobody gave it up was answered in a poll. -/
theorem Kept.exists_answer (kept : yard.Kept) {call : Call Body}
    (found : yard.calls.get? id = some call) (clung : .drop id ∉ history)
    (gone : (yard.after history).calls.get? id = none) : ∃ earlier reply,
      earlier ++ [.poll id] <+: history ∧ ((yard.after earlier).poll id).1 = some reply := by
  induction history generalizing yard call with
  | nil => simp [after_nil, found] at gone
  | cons event rest inductionHypothesis =>
    obtain ⟨other, clungRest⟩ := not_or.mp (fun either => clung (List.mem_cons.mpr either))
    cases still : (yard.step event).calls.get? id with
    | some later =>
      obtain ⟨earlier, reply, ⟨more, rfl⟩, replied⟩ :=
        inductionHypothesis (kept.step event) still clungRest gone
      exact ⟨event :: earlier, reply, ⟨more, rfl⟩, replied⟩
    | none =>
      by_cases own : event.call? = some id
      · cases event with
        | poll busy =>
          cases own
          have left := (kept.inOrder.poll found).own
          rcases polled : yard.poll id with ⟨answer, after⟩
          rw [polled] at left
          cases answer with
          | some reply => exact ⟨[], reply, ⟨rest, rfl⟩, congrArg Prod.fst polled⟩
          | none =>
            obtain ⟨held, waits, -⟩ := left
            rw [Yard.step, polled, waits] at still
            cases still
        | drop busy =>
          cases own
          exact absurd rfl other
        | _ => cases own
      · -- Nothing but the call itself takes it away.
        have same := (kept.bystander (kept.inOrder.numbered found) own).concern
        rw [still, found] at same
        cases same

/-- What is promised to whoever closes the slots and waits for every body to end. -/
structure AwaitsEnds (start : Yard Body) (before : List (Event Body)) (timeout : Duration) :
    Prop where
  /-- It is told that every body has ended, or that its timeout is over. -/
  answers : ∀ history reply, (start.after before).Answered (.drain timeout) reply history →
    reply = .drained (.ok ()) ∨ reply = .drained (.error (.releaseTimeout timeout))
  /-- If every body has ended nobody has a slot, and nobody gets one at any later time. -/
  empty : ∀ history, (start.after before).Answered (.drain timeout) (.drained (.ok ())) history →
    ∀ later, (start.after (before ++ history ++ later)).slots.running = 0 ∧
      (start.after (before ++ history ++ later)).jobs = []
  /-- If the timeout is over somebody has a slot at that moment. -/
  busy : ∀ history, (start.after before).Answered (.drain timeout)
    (.drained (.error (.releaseTimeout timeout))) history →
    0 < (start.after (before ++ history)).slots.running
  /-- Whatever it is told, nobody loses a slot by that. -/
  still : ∀ earlier last reply, (start.after before).Answered (.drain timeout) reply
      (earlier ++ [last]) →
    (start.after (before ++ (earlier ++ [last]))).jobs = (start.after (before ++ earlier)).jobs
  /-- A body that has a slot keeps it until it ends, at any time. -/
  continues : ∀ earlier, ∀ job ∈ (start.after (before ++ earlier)).jobs, ∀ later,
    (∀ event ∈ later, event.ends? ≠ some job.id) →
    ∃ other ∈ (start.after (before ++ earlier ++ later)).jobs, job.Continues other
  /-- If the clock waits for the call, its timeout is over at the first whole millisecond that is
  not before the end of it. -/
  onTime : ∀ history, (start.after before).Answered (.drain timeout)
    (.drained (.error (.releaseTimeout timeout))) history →
    start.Prompt (start.callAfter before) (before ++ history) →
    (start.after (before ++ history)).now = ((start.after before).now + timeout).firstTick
  /-- If nobody has a slot it is told so at once. -/
  idle : (start.after before).slots.running = 0 →
    ((start.after before).begin (.drain timeout)).2.1 = some (.drained (.ok ()))
  /-- Once the clock shows the end of the timeout, or every body has ended, it is told at the latest
  when it is polled, unless it is given up. -/
  returns : ∀ between, .drop (start.callAfter before) ∉ between →
    ((start.after before).now + timeout ≤
        (start.after (before ++ .begin (.drain timeout) :: between)).now ∨
      (start.after (before ++ .begin (.drain timeout) :: between)).slots.running = 0) →
    ∃ history reply,
      history <+: .begin (.drain timeout) :: between ++ [.poll (start.callAfter before)] ∧
      (start.after before).Answered (.drain timeout) reply history
  /-- If it has no time to wait it is told at once. -/
  hasty : timeout = .zero → ((start.after before).begin (.drain timeout)).2.1.isSome

/-- Where there is nothing more to wait for, a call that waits for every job to end is answered when
it is polled, unless it was answered or given up before. -/
theorem Kept.exists_drained (kept : yard.Kept) {between : List (Event Body)}
    (clung : .drop ⟨yard.callCount⟩ ∉ between)
    (due : ((yard.begin (.drain timeout)).2.2.after between).jobs = [] ∨
      ((yard.begin (.drain timeout)).2.2.after between).hasPassed (yard.now.after? timeout) =
        true) :
    ∃ history reply, history <+: .begin (.drain timeout) :: between ++ [.poll ⟨yard.callCount⟩] ∧
      yard.Answered (.drain timeout) reply history := by
  have keptThen := kept.begin (.drain timeout)
  cases begun : (yard.begin (.drain timeout)).2.1 with
  | some reply => exact ⟨_, reply, ⟨between ++ [.poll ⟨yard.callCount⟩], rfl⟩, .atOnce begun⟩
  | none =>
    have waits : ∃ call,
        (yard.begin (.drain timeout)).2.2.calls.get? ⟨yard.callCount⟩ = some call := by
      have requested : yard.concern? (.drain timeout) =
        some (.drain timeout (yard.now.after? timeout)) := rfl
      have left := (kept.inOrder.begin kept.stocked requested).own
      rcases result : (yard.begin (.drain timeout)).2 with ⟨answer, after⟩
      rw [result] at left begun
      cases begun
      exact left.imp fun call found => found.1
    obtain ⟨call, underWay⟩ := waits
    cases found : ((yard.begin (.drain timeout)).2.2.after between).calls.get?
        ⟨yard.callCount⟩ with
    | none =>
      obtain ⟨earlier, reply, ⟨more, rfl⟩, replied⟩ :=
        keptThen.exists_answer underWay clung found
      exact ⟨_, reply, ⟨more ++ [.poll ⟨yard.callCount⟩], by simp; rfl⟩, .inPoll replied⟩
    | some held =>
      have looks := isSome_pollDrain ⟨yard.callCount⟩ timeout due
      rw [← kept.poll_drain found] at looks
      obtain ⟨reply, replied⟩ := Option.isSome_iff_exists.mp looks
      exact ⟨_, reply, List.prefix_rfl, .inPoll replied⟩

section

variable {options : Options} (opened : openNoted? options = .ok start)

include opened

/-- If the timeout of whoever waits for every body to end is over, the clock shows the first whole
millisecond at which it is, as long as the clock waits for the call. -/
theorem now_of_drained
    (answered : (start.after before).Answered (.drain timeout)
      (.drained (.error (.releaseTimeout timeout))) history)
    (prompt : start.Prompt (start.callAfter before) (before ++ history)) :
    (start.after (before ++ history)).now = ((start.after before).now + timeout).firstTick := by
  obtain ⟨earlier, last, rfl, told, -⟩ :=
    ((kept_of_opened opened).1.after before).drained answered
  cases told with
  | late busy past =>
    obtain ⟨moment, limited, passed⟩ := hasPassed_iff.mp past
    obtain ⟨-, rfl⟩ := Duration.after?_eq_some_iff.mp limited
    have requested : (start.after before).concern? (.drain timeout) =
      some (.drain timeout ((start.after before).now.after? timeout)) := rfl
    exact now_eq_firstTick opened requested limited answered passed prompt

/-- Whoever closes the slots and waits for every body to end is told the truth, and in time. -/
theorem awaitsEnds (before : List (Event Body)) (timeout : Duration) :
    start.AwaitsEnds before timeout := by
  have kept := (kept_of_opened opened).1.after before
  exact {
    answers := fun history reply answered => by
      obtain ⟨_, _, -, told, -⟩ := kept.drained answered
      cases told with
      | ended => exact .inl rfl
      | late => exact .inr rfl
    empty := fun history answered later => by
      obtain ⟨earlier, last, -, told, same⟩ := kept.drained answered
      have keptNow := kept.after history
      have none : ((start.after before).after history).jobs = [] := by
        cases told with
        | ended empty => exact same.trans empty
      obtain ⟨rest, rfl⟩ := answered.begins
      have closed := (kept.begin (.drain timeout)).closed_after
        (kept.closed_begin_drain timeout) rest
      obtain ⟨fewer, -⟩ := keptNow.jobs_after_of_closed closed later
      rw [none] at fewer
      rw [after_append, after_append, (keptNow.after later).inOrder.staffed]
      exact ⟨Nat.le_zero.mp fewer, List.eq_nil_of_length_eq_zero (Nat.le_zero.mp fewer)⟩
    busy := fun history answered => by
      obtain ⟨earlier, last, -, told, same⟩ := kept.drained answered
      rw [after_append, (kept.after history).inOrder.staffed, same]
      cases told with
      | late busy past => exact List.length_pos_iff.mpr busy
    still := fun earlier last reply answered => by
      obtain ⟨front, final, split, -, same⟩ := kept.drained answered
      obtain ⟨rfl, -⟩ := List.append_inj' split rfl
      rw [after_append start before (earlier ++ [last]), same, after_append]
    continues := fun earlier job member later goesOn => by
      rw [after_append start]
      exact ((kept_of_opened opened).1.after (before ++ earlier)).continues_after member goesOn
    onTime := fun history answered prompt => now_of_drained opened answered prompt
    idle := fun none => by
      rw [kept.inOrder.staffed] at none
      rw [begin_drain, pollDrain, jobs_prepared, List.eq_nil_of_length_eq_zero none]
      rfl
    returns := fun between clung due => by
      have shown := isShown_after opened (before ++ .begin (.drain timeout) :: between)
      rw [after_append, after_cons, Yard.step] at due shown
      refine kept.exists_drained clung (due.symm.imp (fun none => ?_) fun past => ?_)
      · rw [((kept.begin (.drain timeout)).after between).inOrder.staffed] at none
        exact List.eq_nil_of_length_eq_zero none
      · exact (hasPassed_after? shown _ timeout).trans (decide_eq_true past)
    hasty := fun zero => by
      have shown : ((start.after before).prepared (.drain .zero)).now.isShown = true :=
        isShown_after opened before
      rw [begin_drain, zero]
      refine isSome_pollDrain _ _ (.inr ((hasPassed_after? shown _ .zero).trans ?_))
      exact decide_eq_true (Nat.le_refl _) }

end

/-- A body has the only slot, and another one waits for it. -/
def occupied : List (Event Unit) :=
  [.begin (.submit ()), .begin (.submit ()), .tick (.ofMillis 3)]

/-- The slots are closed, which the second body is told of, and the first one takes too long. -/
def overtime : List (Event Unit) :=
  .begin (.drain ⟨4500000⟩) :: [.poll ⟨1⟩, .start ⟨0⟩, .tick (.ofMillis 8)] ++ [.poll ⟨2⟩]

/-- The timeout is over after eight milliseconds. Who waits once more is told when the body has
panicked. -/
theorem awaitsEnds_overtime : ∃ start : Yard Unit, openNoted? (.ofCapacity 1) = .ok start ∧
    (start.after occupied).Answered (.drain ⟨4500000⟩)
      (.drained (.error (.releaseTimeout ⟨4500000⟩))) overtime ∧
    start.Prompt (start.callAfter occupied) (occupied ++ overtime) ∧
    (start.after (occupied ++ overtime)).now = .ofMillis 8 ∧
    (start.after (occupied ++ overtime)).slots.running = 1 ∧
    (start.after (occupied ++ overtime)).Answered (.drain (.ofMillis 1)) (.drained (.ok ()))
      (.begin (.drain (.ofMillis 1)) :: [.finish ⟨0⟩ (.panicked .other)] ++ [.poll ⟨3⟩]) ∧
    start.AwaitsEnds occupied ⟨4500000⟩ ∧
    start.AwaitsEnds (occupied ++ overtime) (.ofMillis 1) := by
  have run : ∃ start : Yard Unit, openNoted? (.ofCapacity 1) = .ok start ∧
      (start.after occupied).Answered (.drain ⟨4500000⟩)
        (.drained (.error (.releaseTimeout ⟨4500000⟩))) overtime ∧
      start.Prompt (start.callAfter occupied) (occupied ++ overtime) ∧
      (start.after (occupied ++ overtime)).now = .ofMillis 8 ∧
      (start.after (occupied ++ overtime)).slots.running = 1 ∧
      (start.after (occupied ++ overtime)).Answered (.drain (.ofMillis 1)) (.drained (.ok ()))
        (.begin (.drain (.ofMillis 1)) :: [.finish ⟨0⟩ (.panicked .other)] ++ [.poll ⟨3⟩]) :=
    ⟨_, rfl, .inPoll rfl, by decide, rfl, rfl, .inPoll rfl⟩
  obtain ⟨start, opened, late, prompt, now, running, last⟩ := run
  exact ⟨start, opened, late, prompt, now, running, last, awaitsEnds opened occupied _,
    awaitsEnds opened (occupied ++ overtime) _⟩

end Yard

end Taskyard

/-
This file shows that a main line is answered where every body is brief. Each
round of polls either brings the answer or runs a body, and there are more
rounds than bodies. A step of the main line therefore does what its operation
does to the yard, and answers what the operation does.
-/

import Taskyard.Proofs.Awaiting

namespace Taskyard

/-- The answer that a reply of the yard is where no outcome is saved. -/
def Reply.answer : Reply → Answer
  | .submitted (.ok ()) | .drained (.ok ()) => .accepted
  | .submitted (.error error) | .drained (.error error) => .refused error
  | .completed (.ok value) => .completed value
  | .completed (.error error) => .failed error
  | .executed none => .nothing
  | .executed (some outcome) => .outcome outcome
  | .ended reason => .reason reason

namespace World

variable {world : World}

theorem receive_none (world : World) (reply : Reply) :
    world.receive none reply = (reply.answer, world) := by
  unfold receive Reply.answer
  repeat' split
  all_goals simp_all

/-! ### Running bodies -/

/-- Acts that only say something leave their mark in the journal, and nowhere else. -/
theorem proceed_speaking (agent : Agent) {id : JobId} (role : agent.role = .job id)
    {acts : List (Act Step)} (speaks : ∀ act ∈ acts, ∃ level text,
      act = (Step.say level text).plain) (world : World) : ∃ journal,
    world.proceed agent acts =
      { world with yard := { world.yard with journal := journal } }.conclude agent := by
  induction acts generalizing world with
  | nil => exact ⟨world.yard.journal, rfl⟩
  | cons act rest inductionHypothesis =>
    obtain ⟨⟨level, text, rfl⟩, others⟩ := List.forall_mem_cons.mp speaks
    obtain ⟨journal, same⟩ := inductionHypothesis others
      { world with yard := world.yard.note (.said level text) }
    refine ⟨journal, ?_⟩
    rw [proceed]
    simp only [Step.plain, begin, changed, deliver, role]
    exact same

/-- A brief body is over as soon as it has started. -/
theorem pollJob_of_brief {job : Job Task} (brisk : world.yard.Brisk)
    (member : job ∈ world.yard.jobs)
    (earlier : ∀ agent ∈ world.agents, agent.serial < world.agentCount) : ∃ later,
    Yard.Ran job world.yard later ∧ world.pollJob job.id =
      { world with yard := later, agentCount := world.agentCount + 1 } := by
  have brief := brisk.hired job member
  obtain ⟨value, returns⟩ := brief.returns (scopeOf job.purpose)
  let agent : Agent := ⟨world.agentCount, .job job.id, scopeOf job.purpose, none, job.body.acts,
    job.body.finish⟩
  let begun : World := { world with
    yard := world.yard.startJob job.id
    agents := world.agents ++ [agent]
    agentCount := world.agentCount + 1 }
  have others : ∀ other ∈ world.agents, other.serial ≠ world.agentCount := fun other listed =>
    Nat.ne_of_lt (earlier other listed)
  have known : begun.agent? world.agentCount = some agent := by
    have none : world.agents.find? (fun other => other.serial = world.agentCount) = Option.none :=
      List.find?_eq_none.mpr fun other listed => by simpa using others other listed
    simp [begun, agent, World.agent?, List.find?_append, none]
  have alone : (world.agents ++ [agent]).filter (fun other => other.serial ≠ world.agentCount) =
      world.agents := by
    rw [List.filter_append, List.filter_eq_self.mpr fun other listed => by
      simpa using others other listed]
    simp [agent]
  obtain ⟨journal, same⟩ := proceed_speaking agent rfl brief.speaks begun
  refine ⟨_, .returned journal member returns, ?_⟩
  have going : world.yard.overtaken? job = none := by
    unfold Yard.overtaken?
    split
    · exact brisk.going _
    · rfl
    · rfl
  rw [pollJob, brisk.kept.inOrder.job?_of_mem member]
  simp only [brisk.unstarted job member, brief.callable, going, Option.isSome_none,
    Bool.false_eq_true, if_false]
  show enact begun world.agentCount = _
  rw [enact, known]
  simp only
  rw [same, conclude]
  simp only [agent, returns]
  simp only [finishJob, removeAgent, begun, alone]

/-- Once every body has had its turn none is left. -/
theorem exists_pollJobs (brisk : world.yard.Brisk) (unanswered : world.answer = none)
    (earlier : ∀ agent ∈ world.agents, agent.serial < world.agentCount) (id : CallId) :
    ∃ later count, Yard.Goes id world.yard later ∧ later.jobs = [] ∧
      later.wanting id = world.yard.wanting id ∧ world.agentCount ≤ count ∧
      untilAnswered pollJob world.unstarted world =
        { world with yard := later, agentCount := count } := by
  have listed : world.unstarted = world.yard.jobs.map Job.id := by
    rw [unstarted, List.filter_eq_self.mpr fun job member => by
      simp [brisk.unstarted job member]]
  rw [listed]
  generalize jobs : world.yard.jobs = left
  clear listed
  induction left generalizing world with
  | nil => exact ⟨world.yard, world.agentCount, .nothing, jobs, rfl, Nat.le_refl _, rfl⟩
  | cons job rest inductionHypothesis =>
    obtain ⟨later, ran, polled⟩ :=
      pollJob_of_brief brisk (jobs ▸ List.mem_cons_self) earlier
    have done := ran.done brisk.kept
    have left : later.jobs = rest := by
      have distinct := brisk.kept.inOrder.jobsDistinct
      rw [jobs, List.map_cons, List.nodup_cons] at distinct
      rw [done.jobs, jobs, List.filter_cons_of_neg (by simp), List.filter_eq_self]
      exact fun other listed => decide_eq_true fun same =>
        distinct.1 (same ▸ List.mem_map_of_mem listed)
    obtain ⟨last, count, goes, vacant, wants, more, same⟩ :=
      @inductionHypothesis { world with
        yard := later, agentCount := world.agentCount + 1 } (brisk.done done) unanswered
        (fun agent member => Nat.lt_succ_of_lt (earlier agent member)) left
    refine ⟨last, count, (Yard.Goes.ran .nothing ran).trans goes, vacant,
      wants.trans (done.wanting id), Nat.le_of_succ_le more, ?_⟩
    rw [List.map_cons, untilAnswered, if_neg (by simp [unanswered]), polled]
    exact same

/-! ### Rounds -/

/-- The main line while it waits for a call. -/
def waiter (serial : Nat) (id : CallId) : Agent :=
  ⟨serial, .main, none, some ⟨.call id, none, none, none⟩, [], .hangs⟩

/-- Whether the main line waits for a call, and nobody else is at work. -/
structure Attends (world : World) (serial : Nat) (id : CallId) : Prop where
  agents : world.agents = [waiter serial id]
  earlier : serial < world.agentCount
  unanswered : world.answer = none

variable {serial : Nat} {id : CallId} {concern : Concern}

theorem Attends.ready (attends : world.Attends serial id) :
    world.ready = if world.yard.isReady id then [serial] else [] := by
  cases content : world.yard.isReady id <;>
    simp [World.ready, attends.agents, waiter, isReady, isOvertaken, isOver, isGone, content]

theorem Attends.agent? (attends : world.Attends serial id) :
    world.agent? serial = some (waiter serial id) := by
  simp [World.agent?, attends.agents, waiter]

/-- The main line has its answer and is done. -/
theorem Attends.pollAgent_of_answered (attends : world.Attends serial id) {reply : Reply}
    (answered : (world.yard.poll id).1 = some reply) :
    world.pollAgent serial = { world with
      yard := (world.yard.poll id).2, agents := [], answer := some reply.answer } := by
  rw [pollAgent, attends.agent?]
  rcases polled : world.yard.poll id with ⟨answer, later⟩
  rw [polled] at answered
  cases answered
  simp [waiter, isOvertaken, lookInTime, look, polled, receive_none, deliver, proceed, conclude,
    removeAgent, attends.agents]

/-- The main line has looked in vain. -/
theorem Attends.pollAgent_of_vain (attends : world.Attends serial id)
    (vain : (world.yard.poll id).1 = none) :
    world.pollAgent serial = { world with yard := (world.yard.poll id).2 } := by
  rw [pollAgent, attends.agent?]
  rcases polled : world.yard.poll id with ⟨answer, later⟩
  rw [polled] at vain
  cases vain
  simp [waiter, isOvertaken, lookInTime, look, polled, isOver]

theorem untilAnswered_of_answer {Item : Type} (poll : World → Item → World) (items : List Item)
    (answered : world.answer.isSome = true) : untilAnswered poll items world = world := by
  cases items <;> simp [untilAnswered, answered]

/-- What a round brings: the answer of the main line, or less to wait for. -/
theorem Attends.round (attends : world.Attends serial id)
    (waits : world.yard.Waits id concern) :
    (∃ reply, (world.yard.poll id).1 = some reply ∧ world.round = { world with
      yard := (world.yard.poll id).2, agents := [], answer := some reply.answer }) ∨
    ∃ later count, Yard.Goes id world.yard later ∧ serial < count ∧
      later.bodiesLeft id < world.yard.bodiesLeft id ∧
      world.round = { world with yard := later, agentCount := count } := by
  have sole : ∀ agent ∈ world.agents, agent.serial < world.agentCount := by
    rw [attends.agents]
    exact List.forall_mem_singleton.mpr attends.earlier
  -- Whatever the main line has looked at, a body is left to run.
  have runs : ∀ yard, Yard.Goes id world.yard yard → yard.Waits id concern →
      yard.isReady id = false → yard.bodiesLeft id ≤ world.yard.bodiesLeft id →
      ∃ later count, Yard.Goes id world.yard later ∧ serial < count ∧
        later.bodiesLeft id < world.yard.bodiesLeft id ∧
        untilAnswered pollJob (unstarted { world with yard := yard }) { world with yard := yard } =
          { world with yard := later, agentCount := count } := by
    intro yard goes waits content fewer
    obtain ⟨later, count, further, vacant, wants, more, same⟩ :=
      @exists_pollJobs { world with yard := yard } waits.brisk attends.unanswered sole id
    refine ⟨later, count, goes.trans further, Nat.lt_of_lt_of_le attends.earlier more, ?_, same⟩
    have busy := List.length_pos_iff.mpr (waits.busy content)
    rw [Yard.bodiesLeft] at fewer
    rw [Yard.bodiesLeft, vacant, List.length_nil, wants]
    simp only
    omega
  rw [World.round, attends.ready]
  cases content : world.yard.isReady id with
  | false => exact .inr (runs world.yard .nothing waits content (Nat.le_refl _))
  | true =>
    rw [if_pos rfl, untilAnswered, if_neg (by simp [attends.unanswered]), untilAnswered]
    cases answer : (world.yard.poll id).1 with
    | some reply =>
      rw [attends.pollAgent_of_answered answer]
      exact .inl ⟨reply, rfl, untilAnswered_of_answer _ _ rfl⟩
    | none =>
      obtain ⟨still, content⟩ := waits.looked answer
      rw [attends.pollAgent_of_vain answer]
      exact .inr (runs _ (.looked .nothing answer) still content waits.bodiesLeft_poll)

theorem Attends.not_isIdle (attends : world.Attends serial id)
    (waits : world.yard.Waits id concern) : world.isIdle = false := by
  rw [isIdle, attends.ready]
  cases content : world.yard.isReady id with
  | true => rfl
  | false =>
    obtain ⟨job, member⟩ := List.exists_mem_of_ne_nil _ (waits.busy content)
    have listed : job.id ∈ world.unstarted := List.mem_map_of_mem
      (List.mem_filter.mpr ⟨member, by simp [waits.brisk.unstarted job member]⟩)
    simp [List.ne_nil_of_mem listed]

/-- The main line is answered when there are more rounds than bodies to run. -/
theorem Attends.awaitWithin (attends : world.Attends serial id)
    (waits : world.yard.Waits id concern) {rounds : Nat}
    (enough : world.yard.bodiesLeft id < rounds) : ∃ last reply count,
      Yard.Goes id world.yard last ∧ (last.poll id).1 = some reply ∧
      world.awaitWithin rounds = { world with
        yard := (last.poll id).2, agents := [], agentCount := count
        answer := some reply.answer } := by
  induction rounds generalizing world with
  | zero => exact absurd enough (Nat.not_lt_zero _)
  | succ rounds inductionHypothesis =>
    rw [World.awaitWithin, if_neg (by simp [attends.unanswered]),
      if_neg (by simp [attends.not_isIdle waits])]
    rcases attends.round waits with
      ⟨reply, answered, round⟩ | ⟨later, count, goes, earlier, fewer, round⟩
    · refine ⟨world.yard, reply, world.agentCount, .nothing, answered, ?_⟩
      rw [round]
      exact awaitWithin_of_answer rfl rounds
    · obtain ⟨last, reply, more, further, answered, same⟩ :=
        @inductionHypothesis { world with yard := later, agentCount := count }
          ⟨attends.agents, earlier, attends.unanswered⟩ (goes.waits waits)
          (show later.bodiesLeft id < rounds by omega)
      refine ⟨last, reply, more, goes.trans further, answered, ?_⟩
      rw [round]
      exact same

/-! ### Enough rounds -/

theorem length_le_weightOfAll (bodies : List Task) : bodies.length ≤ Task.weightOfAll bodies := by
  induction bodies with
  | nil => exact Nat.zero_le _
  | cons body rest inductionHypothesis =>
    have positive : 0 < Script.weight body := by
      cases body
      rw [Script.weight]
      omega
    rw [Task.weightOfAll, List.length_cons]
    omega

theorem length_assignments (id : CallId) (call : Call Task) :
    (call.assignments id).length = (bodiesOf call).length := by
  cases call <;> simp [Call.assignments, bodiesOf]

/-- There are more rounds than bodies to run. -/
theorem bodiesLeft_lt_rounds (world : World) (id : CallId) :
    world.yard.bodiesLeft id < world.rounds := by
  have jobs := length_le_weightOfAll (world.yard.jobs.map Job.body)
  have wanted := length_le_weightOfAll
    ((world.yard.calls.map Prod.snd).flatMap bodiesOf)
  have wants : (world.yard.wanting id).length ≤
      ((world.yard.calls.map Prod.snd).flatMap bodiesOf).length := by
    rw [Yard.wanting]
    cases found : world.yard.calls.get? id with
    | none => exact Nat.zero_le _
    | some call =>
      have listed : call ∈ world.yard.calls.map Prod.snd :=
        List.mem_map_of_mem (Listing.mem_of_get? found)
      rw [Option.map_some, Option.getD_some, length_assignments]
      exact (List.sublist_flatten_of_mem (List.mem_map_of_mem listed)).length_le
  rw [List.length_map] at jobs
  rw [Yard.bodiesLeft, rounds, work]
  omega

/-! ### Steps of the main line -/

/-- Whether nobody is at work, and no answer is there that was not taken. -/
structure IsAtRest (world : World) : Prop where
  agents : world.agents = []
  unanswered : world.answer = none

/-- The world while the main line begins a step. -/
def asking (world : World) (step : Step) : World :=
  { world with
    agents := [⟨world.agentCount, .main, none, none, [step.plain], .hangs⟩]
    agentCount := world.agentCount + 1 }

variable {step : Step}

theorem perform_eq (atRest : world.IsAtRest) (step : Step) :
    world.perform step.plain =
      let done := ((world.asking step).proceed
        ⟨world.agentCount, .main, none, none, [step.plain], .hangs⟩ [step.plain]).await
      (done.answer.getD .nothing, { done with answer := none }) := by
  simp [perform, addAgent, pollAgent, World.agent?, isOvertaken, asking, atRest.agents]

/-- A step that is answered at once leaves nothing but what it did. -/
theorem perform_of_answered (atRest : world.IsAtRest) {answer : Answer} {yard : Yard Task}
    (scopes : Listing String ScopeId) (begun : (world.asking step).begin none step =
      (.answered answer, { world.asking step with yard := yard, scopes := scopes })) :
    world.perform step.plain = (answer, { world with
      yard := yard, scopes := scopes, agentCount := world.agentCount + 1 }) := by
  rw [perform_eq atRest, proceed]
  simp only [Step.plain, begun, deliver, proceed, conclude]
  rw [await, awaitWithin_of_answer rfl]
  simp [removeAgent, asking, atRest.agents, atRest.unanswered]

/-- A step that has to wait for a call is answered like the call. -/
theorem perform_of_waiting (atRest : world.IsAtRest) (unsaved : saveOf step = none)
    {yard : Yard Task} (begun : (world.asking step).begin none step =
      (.waiting (.call id), { world.asking step with yard := yard }))
    (waits : yard.Waits id concern) : ∃ last reply count, Yard.Goes id yard last ∧
      (last.poll id).1 = some reply ∧ world.perform step.plain =
        (reply.answer, { world with yard := (last.poll id).2, agentCount := count }) := by
  have suspended : (world.asking step).proceed
      ⟨world.agentCount, .main, none, none, [step.plain], .hangs⟩ [step.plain] =
        { world.asking step with yard := yard, agents := [waiter world.agentCount id] } := by
    rw [proceed]
    simp only [Step.plain, begun]
    simp [isOver, limitOf, suspend, asking, waiter, unsaved]
  have attends : Attends { world.asking step with
      yard := yard, agents := [waiter world.agentCount id] } world.agentCount id :=
    ⟨rfl, Nat.lt_succ_self _, atRest.unanswered⟩
  obtain ⟨last, reply, count, goes, answered, same⟩ :=
    attends.awaitWithin waits (bodiesLeft_lt_rounds _ id)
  refine ⟨last, reply, count, goes, answered, ?_⟩
  rw [perform_eq atRest, suspended, await, same]
  simp [asking, atRest.agents, atRest.unanswered]

/-- A step that begins an operation of a brisk yard in which nobody waits is answered in the end. -/
theorem perform_request (atRest : world.IsAtRest) (unsaved : saveOf step = none)
    {start : Yard Task} {request : Request Task} (brisk : start.Brisk) (nobody : start.NobodyWaits)
    (brief : request.IsBrief) (other : ∀ scope, request ≠ .watch scope)
    (begun : (world.asking step).begin none step =
      { world.asking step with yard := start }.request none request) :
    ∃ reply later count, start.Serves request reply later ∧ world.perform step.plain =
      (reply.answer, { world with yard := later, agentCount := count }) := by
  have numbered : (start.begin request).1 = ⟨start.callCount⟩ := rfl
  cases answered : (start.begin request).2.1 with
  | some reply =>
    refine ⟨reply, _, world.agentCount + 1, .atOnce answered, ?_⟩
    refine perform_of_answered atRest world.scopes ?_
    rw [begun, World.request]
    rcases result : start.begin request with ⟨id, answer, later⟩
    rw [result] at answered
    cases answered
    simp only [receive_none]
    rfl
  | none =>
    obtain ⟨concern, -, waits⟩ := brisk.waits_begin nobody brief other answered
    have waiting : (world.asking step).begin none step = (.waiting (.call ⟨start.callCount⟩),
        { world.asking step with yard := (start.begin request).2.2 }) := by
      rw [begun, World.request]
      rcases result : start.begin request with ⟨id, answer, later⟩
      rw [result] at answered numbered
      cases answered
      cases numbered
      rfl
    obtain ⟨last, reply, count, goes, told, same⟩ :=
      perform_of_waiting atRest unsaved waiting waits
    exact ⟨reply, _, count, .inTime answered goes told, same⟩

end World

end Taskyard

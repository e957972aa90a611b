/-
This file says in which order the tasks of a batch get in. A batch asks for its
slots in the order of the pushes, and what goes away on the way (a task that is
refused, a body that is dropped before it starts, the call itself) leaves the
others in their order. The bodies of a batch that may still start, those first
that have a slot, therefore stand in line: the line never gets anybody new and
nobody overtakes anybody in it. If bodies start in the order in which they got
their slots, those of a batch start in the order of the pushes, however often
the batch has to wait in between and whoever else gets a slot meanwhile.

If the slots do not block, a batch does not wait. It is through with all of its
tasks in the first poll, before any body can end. As many of them as there are
slots at hand take these, from the first one on, and all others are refused.
-/

import Taskyard.Proofs.Admission
import Taskyard.Proofs.Commission
import Taskyard.Workload.Schedule

namespace Taskyard

variable {Body : Type} {options : Options}

namespace Yard

variable {yard start : Yard Body} {id : CallId} {scope : ScopeId}

/-! ### The line of a call -/

/-- The bodies of a call that may still start, those first that have a slot. -/
def lineOf (yard : Yard Body) (id : CallId) : List (Assignment Body) :=
  ready (yard.crew id) ++ ((yard.calls.get? id).map (Call.assignments id)).getD []

theorem lineOf_of_same {other : Yard Body} (crew : other.crew id = yard.crew id)
    (call : other.calls.get? id = yard.calls.get? id) : other.lineOf id = yard.lineOf id := by
  rw [lineOf, crew, call, lineOf]

theorem crew_of_same {other : Yard Body} (jobs : other.jobs = yard.jobs) :
    other.crew id = yard.crew id := by
  rw [crew, jobs, crew]

theorem lineOf_of_found {call : Call Body} (found : yard.calls.get? id = some call) :
    yard.lineOf id = ready (yard.crew id) ++ call.assignments id := by
  rw [lineOf, found]
  rfl

theorem sublist_ready {some all : List (Job Body)} (sublist : some.Sublist all) :
    (ready some).Sublist (ready all) :=
  (sublist.filter _).map Job.assignment

/-- Whoever is dealt with stands in line afterwards as it asked for its slots. -/
theorem Places.lineOf {queued : Bool} {assignments : List (Assignment Body)} {before : Yard Body}
    {result : Option Reply × Yard Body} (places : Places id queued assignments before result) :
    (result.2.lineOf id).Sublist (ready (before.crew id) ++ assignments) := by
  obtain ⟨recruits, jobs, idle, -, ordered⟩ := exists_recruits id queued assignments before.floor
  have listed : result.2.jobs = before.jobs ++ recruits := places.parts.jobs.trans jobs
  have crew : ready (result.2.crew id) =
      ready (before.crew id) ++ (recruits.filter (worksFor id)).map Job.assignment := by
    rw [Yard.crew, listed, List.filter_append, ready_append,
      ready_of_idle fun job member => idle job (List.mem_of_mem_filter member)]
    rfl
  have mine : ((recruits.filter (worksFor id)).map Job.assignment).Sublist
      (recruits.map Job.assignment) := List.filter_sublist.map Job.assignment
  have parts := places.parts
  rcases result with ⟨answer, later⟩
  rw [Yard.lineOf, crew, List.append_assoc]
  refine List.Sublist.append_left (List.Sublist.trans ?_ ordered) _
  cases parts with
  | gone same =>
    have calls : later.calls = _ := congrArg Floor.calls same
    have missing : later.calls.get? id = none := by
      rw [calls, Floor.drop, Listing.get?_remove, if_pos rfl]
    rw [missing]
    exact mine.append (List.nil_sublist _)
  | @kept _ call asks same =>
    have calls : later.calls = _ := congrArg Floor.calls same
    have found : later.calls.get? id = some call := by
      rw [calls, Floor.keep, Listing.get?_put, if_pos rfl]
    rw [found, ← asks]
    exact mine.append (List.Sublist.refl _)

/-! ### Starting in turn -/

/-- Whether a body that starts at an event is the one that has its slot for the longest time of all
that have not started. -/
def IsOrderly (yard : Yard Body) (event : Event Body) : Prop :=
  ∀ job ∈ yard.starting event, (yard.jobs.find? fun other => !other.started) = some job

/-- Whether bodies start in the order in which they got their slots. -/
def Orderly (yard : Yard Body) (history : List (Event Body)) : Prop :=
  ∀ earlier event later, history = earlier ++ event :: later → (yard.after earlier).IsOrderly event

theorem Orderly.first {event : Event Body} {history : List (Event Body)}
    (orderly : yard.Orderly (event :: history)) : yard.IsOrderly event :=
  orderly [] event history rfl

theorem Orderly.rest {event : Event Body} {history : List (Event Body)}
    (orderly : yard.Orderly (event :: history)) : (yard.step event).Orderly history :=
  fun earlier other later split => orderly (event :: earlier) other later (by rw [split]; rfl)

/-- The bodies that have a slot and have not started, the first to get theirs first. -/
def unstarted (yard : Yard Body) : List (Job Body) := yard.jobs.filter fun job => !job.started

theorem ready_crew (yard : Yard Body) (id : CallId) :
    ready (yard.crew id) = (yard.unstarted.filter (worksFor id)).map Job.assignment := by
  rw [ready, crew, unstarted, List.filter_comm]

theorem starting_eq (yard : Yard Body) (job : JobId) :
    yard.starting (.start job) = yard.unstarted.filter fun other => other.id = job := by
  rw [starting, unstarted, List.filter_filter]

/-- Whoever starts the first body of those that wait for their start, as a workload does in every
round, starts one that has its turn. -/
theorem isOrderly_of_unstarted {world : World} (kept : world.yard.Kept) {job : JobId}
    {rest : List JobId} (first : world.unstarted = job :: rest) :
    world.yard.IsOrderly (.start job) := by
  intro other starts
  obtain ⟨head, others, split, rfl, -⟩ := List.map_eq_cons_iff.mp first
  rw [starting_eq] at starts
  obtain ⟨member, named⟩ := List.mem_filter.mp starts
  have listed : head ∈ world.yard.jobs.filter fun other => !other.started :=
    split ▸ List.mem_cons_self
  have same : other = head := kept.inOrder.eq_of_id (List.mem_of_mem_filter member)
    (List.mem_of_mem_filter listed) (of_decide_eq_true named)
  rw [same, ← List.head?_filter, split, List.head?_cons]

theorem unstarted_startJob (yard : Yard Body) (job : JobId) :
    (yard.startJob job).unstarted = yard.unstarted.filter fun other => other.id ≠ job := by
  simp only [unstarted, startJob, List.filter_filter]
  induction yard.jobs with
  | nil => rfl
  | cons other rest inductionHypothesis =>
    rw [List.map_cons, List.filter_cons, List.filter_cons, inductionHypothesis]
    by_cases named : other.id = job <;> simp [named]

/-- A body that starts in its turn leaves the others in theirs. -/
theorem InOrderBut.unstarted_start (inOrder : yard.InOrder) {job : JobId}
    (orderly : yard.IsOrderly (.start job)) :
    yard.starting (.start job) ++ (yard.startJob job).unstarted = yard.unstarted := by
  rw [starting_eq, unstarted_startJob]
  by_cases none : yard.unstarted.filter (fun other => other.id = job) = []
  · have others : ∀ other ∈ yard.unstarted, other.id ≠ job := fun other member => by
      simpa using List.filter_eq_nil_iff.mp none other member
    rw [none, List.filter_eq_self.mpr fun other member => decide_eq_true (others other member)]
    rfl
  · obtain ⟨first, member⟩ := List.exists_mem_of_ne_nil _ none
    have head := orderly first (starting_eq yard job ▸ member)
    rw [← List.head?_filter] at head
    obtain ⟨rest, split⟩ := List.head?_eq_some_iff.mp head
    have named : first.id = job := by simpa using (List.mem_filter.mp member).2
    have distinct : (yard.unstarted.map Job.id).Nodup :=
      inOrder.jobsDistinct.sublist (List.filter_sublist.map Job.id)
    rw [unstarted, split] at *
    have others : ∀ other ∈ rest, other.id ≠ job := fun other listed same =>
      (List.nodup_cons.mp distinct).1 (named ▸ same ▸ List.mem_map_of_mem listed)
    rw [List.filter_cons_of_pos (by simp [named]), List.filter_cons_of_neg (by simp [named]),
      List.filter_eq_nil_iff.mpr fun other listed => by simp [others other listed],
      List.filter_eq_self.mpr fun other listed => decide_eq_true (others other listed)]
    rfl

/-! ### What an event does to the line -/

theorem Relieved.lineOf {later : Yard Body} (relieved : Relieved yard later) (id : CallId) :
    (later.lineOf id).Sublist (yard.lineOf id) := by
  obtain rfl | ⟨job, output, retired⟩ := relieved
  · exact List.Sublist.refl _
  · obtain ⟨older, younger, jobs, rest⟩ := retired.jobs
    have fewer : (later.crew id).Sublist (yard.crew id) := by
      rw [crew, crew, jobs, rest]
      exact (List.Sublist.append_left (List.sublist_cons_self job younger) older).filter _
    have wants : ((later.calls.get? id).map (Call.assignments id)).getD [] =
        ((yard.calls.get? id).map (Call.assignments id)).getD [] := by
      rw [retired.calls id]
      split
      · cases yard.calls.get? id <;> simp [Call.assignments_hear]
      · rfl
    rw [Yard.lineOf, Yard.lineOf, wants]
    exact (sublist_ready fewer).append_right _

/-- Nobody gets into the line of a call, or ahead in it, and whoever starts in his turn is the first
in it. -/
theorem Kept.lineOf_step (kept : yard.Kept) {event : Event Body}
    (known : id.serial < yard.callCount) (orderly : yard.IsOrderly event) :
    (((yard.starting event).filter (worksFor id)).map Job.assignment ++
      (yard.step event).lineOf id).Sublist (yard.lineOf id) := by
  have still : ∀ {later : Yard Body}, later.jobs = yard.jobs → later.calls = yard.calls →
      (later.lineOf id).Sublist (yard.lineOf id) := fun jobs calls => by
    rw [lineOf_of_same (crew_of_same jobs) (by rw [calls])]
  have dealt : ∀ {other : CallId} {queued : Bool} {assignments : List (Assignment Body)}
      {before : Yard Body} {result : Option Reply × Yard Body}, other ≠ id →
      Places other queued assignments before result → before.jobs = yard.jobs →
      before.calls = yard.calls →
      (∀ assignment ∈ assignments, ∀ patron, assignment.purpose.patron? = some patron →
        patron = other) → (result.2.lineOf id).Sublist (yard.lineOf id) := by
    intro other queued assignments before result apart places jobs calls own
    have crew := places.crew apart.symm own
    have call := places.others apart.symm
    rw [lineOf_of_same (crew.trans (crew_of_same jobs)) (call.trans (by rw [calls]))]
  cases event with
  | tick moment =>
    obtain ⟨now, -, moved⟩ := advanceTo_eq yard moment
    rw [Yard.step, moved]
    exact still rfl rfl
  | push scope label body =>
    obtain ⟨scopes, backlog, taskCount, journal, -, pushed⟩ := push_eq yard scope label body
    rw [Yard.step, pushed]
    exact still rfl rfl
  | begin request =>
    have apart : (⟨yard.callCount⟩ : CallId) ≠ id := fun same => by
      rw [← same] at known
      exact Nat.lt_irrefl _ known
    exact dealt apart (kept.places_begin request) (jobs_prepared request) (calls_prepared request)
      fun assignment member patron works => patron_of_mem_offered member works
  | poll other =>
    cases found : yard.calls.get? other with
    | none =>
      rw [Yard.step, poll_of_absent found]
      exact still rfl rfl
    | some call =>
      have places := places_poll found
      by_cases same : other = id
      · subst same
        rw [lineOf_of_found found]
        exact places.lineOf
      · exact dealt same places rfl rfl fun assignment member patron works =>
          Call.patron_of_mem_assignments member works
  | drop other =>
    refine (List.Sublist.append_left ?_ _ : (ready (yard.crew id) ++ _).Sublist _)
    show (((yard.calls.remove other).get? id).map (Call.assignments id)).getD [] |>.Sublist _
    rw [Listing.get?_remove]
    split
    · exact List.nil_sublist _
    · exact List.Sublist.refl _
  | start job =>
    have split := kept.inOrder.unstarted_start orderly
    rw [lineOf, lineOf, ready_crew, ready_crew, ← split, ← List.append_assoc, List.filter_append,
      List.map_append]
    exact List.Sublist.refl _
  | finish job ending => exact (kept.inOrder.finishJob job ending).lineOf id
  | abandon job => exact (kept.inOrder.abandonJob job).lineOf id
  | openScope | cancel | query | discard | setTimeout | release => exact still rfl rfl

/-- If everybody starts in his turn, those that have started were ahead of those that are left. -/
theorem Kept.lineOf_after (kept : yard.Kept) {history : List (Event Body)}
    (known : id.serial < yard.callCount) (orderly : yard.Orderly history) :
    ((yard.startsFor id history).map Job.assignment ++
      (yard.after history).lineOf id).Sublist (yard.lineOf id) := by
  induction history generalizing yard with
  | nil => exact List.Sublist.refl _
  | cons event rest inductionHypothesis =>
    have first := kept.lineOf_step known orderly.first
    have later := inductionHypothesis (kept.step event)
      (Nat.lt_of_lt_of_le known (kept.callCount_le event)) orderly.rest
    rw [startsFor, chronicle, List.filter_append, List.map_append, List.append_assoc]
    exact (List.Sublist.append_left later _).trans first

/-- The line of a batch begins in the order of the batch. -/
theorem Kept.lineOf_begin (kept : yard.Kept) (scope : ScopeId) :
    ((yard.begin (.exec scope)).2.2.lineOf ⟨yard.callCount⟩).Sublist
      ((yard.backlog.batch scope).map fun entry => entry.assignment ⟨yard.callCount⟩ scope) := by
  have places := kept.places_begin (.exec scope)
  obtain ⟨-, unstaffed, -⟩ := kept.inOrder.fresh
  have bare : (yard.prepared (.exec scope)).crew ⟨yard.callCount⟩ = [] :=
    List.map_eq_nil_iff.mp unstaffed
  have line := places.lineOf
  rw [bare] at line
  exact line.trans (yard.offered_sublist (.exec scope))

/-- Whoever starts in his turn does so in the order of the batch. -/
theorem Kept.startsFor_sublist (kept : yard.Kept) {history : List (Event Body)}
    (orderly : yard.Orderly (.begin (.exec scope) :: history)) :
    ((yard.startsFor ⟨yard.callCount⟩ (.begin (.exec scope) :: history)).map
      Job.assignment).Sublist
      ((yard.backlog.batch scope).map fun entry => entry.assignment ⟨yard.callCount⟩ scope) := by
  have known : (⟨yard.callCount⟩ : CallId).serial < (yard.begin (.exec scope)).2.2.callCount :=
    kept.known_begin (.exec scope)
  have line := (kept.begin (.exec scope)).lineOf_after known orderly.rest
  have starts : yard.startsFor ⟨yard.callCount⟩ (.begin (.exec scope) :: history) =
      (yard.begin (.exec scope)).2.2.startsFor ⟨yard.callCount⟩ history := rfl
  rw [starts]
  exact ((List.sublist_append_left _ _).trans line).trans (kept.lineOf_begin scope)

/-- Only a push gets anything into a batch, at its end. -/
theorem Kept.batch_step (kept : yard.Kept) (event : Event Body) (scope : ScopeId) :
    (((yard.step event).backlog.batch scope).map fun entry => (scope, entry)).Sublist
      (((yard.backlog.batch scope).map fun entry => (scope, entry)) ++ yard.pushing event) := by
  have fewer : ∀ use : Use Body, use.entry? scope = none →
      ((yard.backlog.perform use).2.batch scope).Sublist (yard.backlog.batch scope) := by
    intro use nothing
    rw [Backlog.batch_perform, nothing]
    split
    · exact List.nil_sublist _
    · simp
  rw [kept.backlog_step_eq event]
  cases event with
  | push other label body =>
    rw [handling]
    rcases yard.push_cases other label body with ⟨-, nothing, -⟩ | ⟨-, pushed, -⟩
    · rw [nothing]
      exact List.sublist_append_left _ _
    · rw [pushed]
      show (((yard.backlog.perform (.push other _)).2.batch scope).map _).Sublist _
      rw [Backlog.batch_perform]
      by_cases same : other = scope
      · simp [Use.removes, Use.entry?, same]
      · simp [Use.removes, Use.entry?, same]
  | begin request =>
    cases request with
    | exec other =>
      exact ((fewer (.take other) rfl).map _).trans (List.sublist_append_left _ _)
    | submit | submitTask | drain | watch => exact List.sublist_append_left _ _
  | discard other => exact ((fewer (.discard other) rfl).map _).trans (List.sublist_append_left _ _)
  | release => exact ((fewer .clear rfl).map _).trans (List.sublist_append_left _ _)
  | tick | openScope | cancel | query | setTimeout | poll | drop | start | finish | abandon =>
    exact List.sublist_append_left _ _

/-- The batch of a scope is in the order of the pushes. -/
theorem sublist_pushing (opened : openNoted? options = .ok start) (history : List (Event Body))
    (scope : ScopeId) : (((start.after history).backlog.batch scope).map fun entry =>
      (scope, entry)).Sublist (start.chronicle pushing history) := by
  have kept := (kept_of_opened opened).1
  induction history using List.reverseRecOn with
  | nil =>
    obtain ⟨slots, -, rfl⟩ := openNoted?_eq opened
    exact List.Sublist.refl []
  | append_singleton earlier event inductionHypothesis =>
    rw [after_concat, chronicle_concat]
    exact ((kept.after earlier).batch_step event scope).trans
      (inductionHypothesis.append_right _)

/-! ### Slots that do not block -/

/-- Where nobody waits, every slot that is not taken lies at hand. -/
theorem idle_eq_free {slots : Slots} (sound : slots.Sound) (nobody : slots.waiting = 0) :
    slots.idle = slots.free := by
  have counted := sound.counted
  have conserved := sound.conserved
  rw [nobody, Slots.parked, List.length_append] at counted
  rw [Slots.places] at conserved
  rw [Slots.idle]
  omega

/-- How a batch gets on that asks for its slots where nobody waits for one: as many tasks as there
are slots at hand get one, from the first one on, and the others are refused. -/
structure Spends (options : Options) (id : CallId) (batch : Batch Body)
    (entries : List (Entry Body)) (before : Yard Body) (result : Batch Body × Yard Body) :
    Prop where
  unsubmitted : result.1.unsubmitted = []
  running : result.2.slots.running =
    before.slots.running + min entries.length before.slots.free
  recruits : ∃ recruits, result.2.jobs = before.jobs ++ recruits ∧
    (∀ job ∈ recruits, job.started = false) ∧
    recruits.map Job.assignment = orders id batch (entries.take before.slots.free)
  noted : result.2.noted = before.noted ++
    (entries.drop before.slots.free).map fun entry => (entry.task, .saturated options.capacity)

section

variable {batch : Batch Body} {entry : Entry Body} {rest : List (Entry Body)}
  {between : Yard Body} {result : Batch Body × Yard Body}
  (spends : Spends options id batch rest between result)

include spends

/-- The first task gets a slot, and the others ask for those that are left. -/
theorem Spends.hire {job : Job Body} (some : yard.slots.free = between.slots.free + 1)
    (running : between.slots.running = yard.slots.running + 1)
    (jobs : between.jobs = yard.jobs ++ [job]) (idle : job.started = false)
    (same : job.assignment = entry.assignment id batch.scope)
    (noted : between.noted = yard.noted) :
    Spends options id batch (entry :: rest) yard result where
  unsubmitted := spends.unsubmitted
  running := by
    rw [spends.running, running, List.length_cons, some]
    omega
  recruits := by
    obtain ⟨recruits, more, still, others⟩ := spends.recruits
    refine ⟨job :: recruits, ?_, List.forall_mem_cons.mpr ⟨idle, still⟩, ?_⟩
    · rw [more, jobs, List.append_assoc, List.singleton_append]
    · rw [List.map_cons, same, others, some]
      rfl
  noted := by
    rw [spends.noted, noted, some]
    rfl

/-- The first task is refused, and so are all others. -/
theorem Spends.refuse (taken : yard.slots.free = 0) (slots : between.slots = yard.slots)
    (jobs : between.jobs = yard.jobs)
    (noted : between.noted = yard.noted ++ [(entry.task, .saturated options.capacity)]) :
    Spends options id batch (entry :: rest) yard result where
  unsubmitted := spends.unsubmitted
  running := by
    rw [spends.running, slots, taken, Nat.min_zero, Nat.min_zero]
  recruits := by
    obtain ⟨recruits, more, still, others⟩ := spends.recruits
    rw [slots, taken] at others
    exact ⟨recruits, more.trans (by rw [jobs]), still, by rw [taken]; exact others⟩
  noted := by
    rw [spends.noted, noted, slots, taken]
    simp

end

theorem spends_dispatch {batch : Batch Body} (obeys : yard.slots.Obeys options)
    (refuses : options.nonblocking = true) (unclosed : yard.slots.closed = false)
    (entries : List (Entry Body)) (outcome : Outcome) :
    Spends options id batch entries yard (yard.dispatch id batch false entries outcome) := by
  induction entries generalizing yard outcome with
  | nil => exact ⟨rfl, by simp [dispatch], ⟨[], by simp [dispatch, orders]⟩, by simp [dispatch]⟩
  | cons entry rest inductionHypothesis =>
    have asks : yard.slots.turn id false = yard.slots.ask id := rfl
    have decides := obeys.decides id
    have limits := obeys.decided decides
    rcases told : yard.slots.ask id with ⟨turn, slots⟩
    rw [told] at decides limits asks
    rw [dispatch, asks]
    cases decides with
    | closed closed => simp [unclosed] at closed
    | admitted opened atHand =>
      exact (inductionHypothesis (by exact limits) (by exact unclosed) outcome).hire
        (Nat.succ_pred_eq_of_pos atHand).symm rfl rfl rfl rfl rfl
    | saturated opened taken full =>
      exact (inductionHypothesis (by exact limits) (by exact unclosed) _).refuse taken rfl rfl
        (by simp [Yard.noted, note, Note.refusal?])
    | queued opened taken patient => simp [refuses] at patient

/-! ### The first poll -/

/-- Whether a call that is under way has no body to get a slot for any more. -/
def WantsNothing (yard : Yard Body) (id : CallId) : Prop :=
  ∀ call, yard.calls.get? id = some call → call.assignments id = []

/-- What a batch comes to in its first poll if nobody waits for a slot. -/
structure Fills (options : Options) (yard : Yard Body) (scope : ScopeId) : Prop where
  /-- As many bodies more have a slot as the batch has tasks, but no more than there were slots
  left. -/
  running : (yard.begin (.exec scope)).2.2.slots.running =
    yard.slots.running + min (yard.backlog.batch scope).length yard.slots.idle
  /-- They are the first ones in the order of the batch. -/
  admitted : ∃ recruits, (yard.begin (.exec scope)).2.2.jobs = yard.jobs ++ recruits ∧
    (∀ job ∈ recruits, job.started = false) ∧
    recruits.map Job.assignment = ((yard.backlog.batch scope).take yard.slots.idle).map
      fun entry => entry.assignment ⟨yard.callCount⟩ scope
  /-- The others are refused because there is no slot. -/
  refused : yard.refusing ⟨yard.callCount⟩ (.begin (.exec scope)) =
    ((yard.backlog.batch scope).drop yard.slots.idle).map
      fun entry => (entry.task, .saturated options.capacity)
  /-- Nothing is left to submit later. -/
  settled : (yard.begin (.exec scope)).2.2.WantsNothing ⟨yard.callCount⟩

theorem Parts.running {left : List (Assignment Body)} {floor : Floor Body}
    {result : Option Reply × Yard Body} (parts : Parts id left floor result) :
    result.2.slots.running = floor.slots.running := by
  rcases parts.slots with same | withdrawn
  · rw [same]
  · rw [withdrawn, (floor.slots.withdraw_frame id).2.2]

theorem Parts.wantsNothing {left : List (Assignment Body)} {floor : Floor Body}
    {result : Option Reply × Yard Body} (parts : Parts id left floor result) (none : left = []) :
    result.2.WantsNothing id := by
  rcases result with ⟨answer, later⟩
  intro call found
  cases parts with
  | gone same => exact absurd found (by simp [absent_of_gone same])
  | @kept _ held assignments same =>
    have calls : later.calls = floor.calls.put id held := congrArg Floor.calls same
    rw [calls, Listing.get?_put, if_pos rfl] at found
    cases found
    exact assignments.trans none

theorem Kept.fills_of_stored (kept : yard.Kept) (obeys : yard.slots.Obeys options)
    (refuses : options.nonblocking = true) (unclosed : yard.slots.closed = false)
    (going : yard.ended? scope = none) {entries : List (Entry Body)}
    (stored : yard.backlog.batches.get? scope = some entries) : yard.Fills options scope := by
  have submits := Submits.begins stored going
  have told := submits.refusing
  have noted := submits.noted
  have step : (yard.begin (.exec scope)).2.2 = _ := submits.step
  have limits := submits.obeys obeys
  generalize same : (yard.prepared (.exec scope)).note (.dispatched scope
    (entries.map Entry.task).length yard.timeout) = ready at submits told noted step limits
  have slots : ready.slots = yard.slots := by rw [← same]; rfl
  have jobs : ready.jobs = yard.jobs := by rw [← same]; rfl
  have spends : Spends options ⟨yard.callCount⟩ (taken scope yard.timeout yard.now entries) entries
      ready (ready.submitted ⟨yard.callCount⟩ (taken scope yard.timeout yard.now entries)) :=
    spends_dispatch limits refuses (slots ▸ unclosed) entries .empty
  have parts := ready.parts_submitted ⟨yard.callCount⟩ (taken scope yard.timeout yard.now entries)
  have free : ready.slots.free = yard.slots.idle := by
    rw [slots, idle_eq_free kept.inOrder.slots (obeys.nobody refuses)]
  have listed : yard.backlog.batch scope = entries := Backlog.batch_of_get? stored
  rw [spends.unsubmitted] at parts
  exact {
    running := by
      rw [step, parts.running, listed, ← free, ← slots]
      exact spends.running
    admitted := by
      obtain ⟨recruits, more, idle, order⟩ := spends.recruits
      refine ⟨recruits, ?_, idle, ?_⟩
      · rw [step, parts.jobs, ← jobs]
        exact more
      · rw [order, listed, free]
        rfl
    refused := by
      rw [told, spends.noted, noted, List.drop_left, listed, free]
    settled := by
      rw [step]
      exact parts.wantsNothing rfl }

/-- Where nobody waits for a slot, a batch takes the slots that are left in its first poll. -/
theorem Kept.fills (kept : yard.Kept) (obeys : yard.slots.Obeys options)
    (refuses : options.nonblocking = true) (unclosed : yard.slots.closed = false)
    (going : yard.ended? scope = none) : yard.Fills options scope := by
  cases stored : yard.backlog.batches.get? scope with
  | some entries => exact kept.fills_of_stored obeys refuses unclosed going stored
  | none =>
    have answered := begin_exec_of_absent stored
    have empty : yard.backlog.batch scope = [] := by simp [Backlog.batch, stored]
    obtain ⟨-, -, absent⟩ := kept.inOrder.fresh
    have later : (yard.begin (.exec scope)).2.2 =
        (yard.prepared (.exec scope)).note (.nothingPending scope) := by rw [answered]
    have noted : (yard.step (.begin (.exec scope))).noted = yard.noted := by
      rw [Yard.step, later]
      exact noted_note rfl _
    exact {
      running := by
        rw [later, empty, List.length_nil, Nat.zero_min]
        rfl
      admitted := ⟨[], by rw [later, List.append_nil]; rfl, List.forall_mem_nil _, by simp [empty]⟩
      refused := by
        rw [refusing, noted, empty]
        simp
      settled := by
        intro call found
        rw [later] at found
        exact absurd (absent.symm.trans found) (by simp) }

/-! ### After the first poll -/

theorem Kept.wantsNothing_step (kept : yard.Kept) (known : id.serial < yard.callCount)
    (nothing : yard.WantsNothing id) (event : Event Body) : (yard.step event).WantsNothing id := by
  by_cases about : event.call? = some id
  · cases event with
    | poll other =>
      cases about
      cases found : yard.calls.get? id with
      | none =>
        rw [Yard.step, poll_of_absent found]
        exact nothing
      | some call =>
        have places := places_poll found
        rw [nothing call found] at places
        exact places.parts.wantsNothing rfl
    | drop other =>
      cases about
      intro call found
      simp [Yard.step, Yard.drop, Listing.get?_remove] at found
    | tick | openScope | cancel | query | push | discard | setTimeout | release | begin | start
    | finish | abandon => cases about
  · intro call found
    cases kept.bystander known about with
    | spared same => exact nothing call (same.symm.trans found)
    | served purpose output same =>
      rw [found] at same
      obtain ⟨former, before, rfl⟩ := Option.map_eq_some_iff.mp same.symm
      rw [Call.assignments_hear]
      exact nothing former before

theorem Kept.wantsNothing_after (kept : yard.Kept) (known : id.serial < yard.callCount)
    (nothing : yard.WantsNothing id) (history : List (Event Body)) :
    (yard.after history).WantsNothing id := by
  induction history generalizing yard with
  | nil => exact nothing
  | cons event rest inductionHypothesis =>
    exact inductionHypothesis (kept.step event)
      (Nat.lt_of_lt_of_le known (kept.callCount_le event))
      (kept.wantsNothing_step known nothing event)

/-- Whoever wants no slot is refused none. -/
theorem refusing_of_wantsNothing (known : id.serial < yard.callCount)
    (nothing : yard.WantsNothing id) (event : Event Body) : yard.refusing id event = [] := by
  unfold refusing
  split
  · next deals =>
    refine List.drop_eq_nil_of_le (Nat.le_of_eq ?_)
    cases event with
    | poll other =>
      obtain rfl : other = id := of_decide_eq_true deals
      cases found : yard.calls.get? other with
      | none => rw [Yard.step, poll_of_absent found]
      | some call =>
        have refusals := (places_poll found).refusals
        rw [nothing call found] at refusals
        have same : (yard.poll other).2.refusals = yard.refusals :=
          refusals.trans (List.append_nil _)
        rw [refusals_eq, refusals_eq] at same
        simpa [Yard.step] using congrArg List.length same
    | begin request =>
      rw [of_decide_eq_true deals] at known
      exact absurd known (Nat.lt_irrefl _)
    | tick | openScope | cancel | query | push | discard | setTimeout | release | drop | start
    | finish | abandon => cases deals
  · rfl

/-- A body that is over never says that it was refused a slot. -/
theorem output_of_handing {event : Event Body} {handed : TaskId × Output}
    (hands : yard.handing id event = some handed) (error : PoolError) :
    handed.2 ≠ .error (.submit error) := by
  cases event with
  | finish job ending =>
    obtain ⟨held, -, hands⟩ := Option.bind_eq_some_iff.mp hands
    split at hands
    · obtain ⟨task, -, rfl⟩ := Option.map_eq_some_iff.mp hands
      cases ending <;> simp [Ending.output]
    · cases hands
  | abandon job =>
    obtain ⟨held, -, hands⟩ := Option.bind_eq_some_iff.mp hands
    obtain ⟨reason, -, hands⟩ := Option.bind_eq_some_iff.mp hands
    obtain ⟨task, -, rfl⟩ := Option.map_eq_some_iff.mp hands
    simp
  | tick | openScope | cancel | query | push | discard | setTimeout | release | begin | poll | drop
  | start => cases hands

/-- Whether an entry of an outcome says that its task was refused a slot. -/
def saysRefused (entry : TaskId × Option TaskError) : Bool :=
  match entry.2 with
  | some (.submit _) => true
  | _ => false

/-- A call that wants no slot hears of no task any more that it was refused one. -/
theorem Kept.not_saysRefused_of_wantsNothing (kept : yard.Kept)
    (known : id.serial < yard.callCount) (nothing : yard.WantsNothing id)
    (history : List (Event Body)) : ∀ heard ∈ yard.chronicle (learning id) history,
    saysRefused (heard.1, Outcome.entryOf heard.2) = false := by
  intro heard member
  obtain ⟨earlier, event, later, rfl, brought⟩ := mem_chronicle member
  have still := kept.wantsNothing_after known nothing earlier
  have stillKnown := Nat.lt_of_lt_of_le known (kept.callCount_le_after earlier)
  rw [learning, refusing_of_wantsNothing stillKnown still, List.map_nil, List.append_nil,
    Option.mem_toList] at brought
  have other := output_of_handing brought
  obtain ⟨task, output⟩ := heard
  cases output with
  | ok value => rfl
  | error error =>
    cases error with
    | submit reason => exact absurd rfl (other reason)
    | _ => rfl

/-- A batch hears in its first poll that the tasks for which there is no slot are refused. -/
theorem Fills.learning (fills : yard.Fills options scope) :
    yard.learning ⟨yard.callCount⟩ (.begin (.exec scope)) =
      ((yard.backlog.batch scope).drop yard.slots.idle).map fun entry =>
        (entry.task, .error (.submit (.saturated options.capacity))) := by
  rw [Yard.learning, fills.refused, List.map_map]
  rfl

/-- The entries of a batch that comes to an outcome with something of every task, of those that were
refused in its first poll and of no others. -/
theorem Kept.refused_of_answered (kept : yard.Kept) (fills : yard.Fills options scope)
    {history : List (Event Body)} {outputs : List (TaskId × Output)}
    (told : outputs.Perm (yard.chronicle (learning ⟨yard.callCount⟩)
      (.begin (.exec scope) :: history))) :
    ((outputs.map fun entry => (entry.1, Outcome.entryOf entry.2)).filter saysRefused).Perm
      (((yard.backlog.batch scope).drop yard.slots.idle).map fun entry =>
        (entry.task, some (.submit (.saturated options.capacity)))) := by
  refine ((told.map _).filter _).trans (List.Perm.of_eq ?_)
  have others := (kept.begin (.exec scope)).not_saysRefused_of_wantsNothing
    (kept.known_begin (.exec scope)) fills.settled history
  have none : (((yard.begin (.exec scope)).2.2.chronicle (learning ⟨yard.callCount⟩) history).map
      fun entry => (entry.1, Outcome.entryOf entry.2)).filter saysRefused = [] := by
    refine List.filter_eq_nil_iff.mpr fun shown member => ?_
    obtain ⟨entry, listed, rfl⟩ := List.mem_map.mp member
    simp [others entry listed]
  have step : yard.step (.begin (.exec scope)) = (yard.begin (.exec scope)).2.2 := rfl
  rw [chronicle, step, fills.learning, List.map_append, List.filter_append, none, List.append_nil,
    List.map_map]
  refine List.filter_eq_self.mpr fun shown member => ?_
  obtain ⟨entry, -, rfl⟩ := List.mem_map.mp member
  rfl

/-! ### The order of a batch -/

/-- How a batch of a scope fills the slots up where nobody waits for one. -/
structure FillsUp (start : Yard Body) (options : Options) (before : List (Event Body))
    (scope : ScopeId) : Prop where
  firstPoll : (start.after before).Fills options scope
  /-- A task for which there was no slot left never starts. -/
  never : ∀ entry ∈ ((start.after before).backlog.batch scope).drop (start.after before).slots.idle,
    ∀ later, entry.task ∉ start.startedTasks (before ++ .begin (.exec scope) :: later)
  /-- The outcome says of these tasks, and of no others, that there was no slot, unless the timeout
  of the batch is over or its scope has ended before something is known of every task. -/
  outcome : ∀ history outcome,
    (start.after before).Answered (.exec scope) (.executed (some outcome)) history →
    (∃ earlier last, history = earlier ++ [last] ∧
      (start.after (before ++ earlier)).FailsWhole (taken scope (start.after before).timeout
        (start.after before).now ((start.after before).backlog.batch scope)) outcome ∧
      ((start.after before).chronicle (learning (start.callAfter before)) history).length <
        ((start.after before).backlog.batch scope).length) ∨
    ((outcome.errors.filter saysRefused).Perm
        ((((start.after before).backlog.batch scope).drop (start.after before).slots.idle).map
          fun entry => (entry.task, some (.submit (.saturated options.capacity)))) ∧
      (outcome.errors.filter saysRefused).length =
        ((start.after before).backlog.batch scope).length -
          min ((start.after before).backlog.batch scope).length (start.after before).slots.idle)

/-- In which order the tasks of a batch get in that is begun after a history. -/
structure GoesInOrder (start : Yard Body) (options : Options) (before : List (Event Body))
    (scope : ScopeId) : Prop where
  /-- A batch is in the order of the pushes. -/
  pushed : (((start.after before).backlog.batch scope).map fun entry => (scope, entry)).Sublist
    (start.chronicle pushing before)
  /-- If bodies start in the order in which they got their slots, those of the batch start in the
  order of the batch. -/
  inTurn : ∀ history, (start.after before).Orderly (.begin (.exec scope) :: history) →
    (((start.after before).startsFor (start.callAfter before)
      (.begin (.exec scope) :: history)).map Job.assignment).Sublist
      (((start.after before).backlog.batch scope).map fun entry =>
        entry.assignment (start.callAfter before) scope)
  /-- If the slots are open and do not block, the first tasks take those that are left, and all
  others are refused. -/
  fillsUp : options.nonblocking = true → (start.after before).slots.closed = false →
    (start.after before).ended? scope = none → start.FillsUp options before scope

theorem fillsUp_of_opened (opened : openNoted? options = .ok start) {before : List (Event Body)}
    (refuses : options.nonblocking = true) (unclosed : (start.after before).slots.closed = false)
    (going : (start.after before).ended? scope = none) : start.FillsUp options before scope := by
  have kept := (kept_of_opened opened).1.after before
  have fills := kept.fills (obeys_after opened before) refuses unclosed going
  refine ⟨fills, fun entry member later => ?_, fun history outcome answered => ?_⟩
  · have told : (entry.task, .saturated options.capacity) ∈
        (start.after before).refusing ⟨(start.after before).callCount⟩ (.begin (.exec scope)) :=
      fills.refused ▸ List.mem_map_of_mem member
    exact not_mem_of_refusing opened told later
  · obtain ⟨entries, stored, concludes⟩ :=
      kept.concludes (fun _ => ne_nil_of_stored opened before) answered
    have listed := Backlog.batch_of_get? stored
    cases concludes with
    | fails split whole short =>
      rw [← after_append, ← listed] at whole
      exact .inl ⟨_, _, split, whole, listed.symm ▸ short⟩
    | @complete outputs same distinct told full =>
      obtain ⟨later, rfl⟩ := answered.begins
      have plain : (Outcome.empty.tasks ++ outputs.map Prod.fst).Nodup := distinct
      have errors : outcome.errors =
          outputs.map fun entry => (entry.1, Outcome.entryOf entry.2) := by
        rw [same, Outcome.errors_recordAll plain]
        rfl
      have perm := kept.refused_of_answered fills told
      rw [← errors] at perm
      refine .inr ⟨perm, ?_⟩
      rw [perm.length_eq, List.length_map, List.length_drop]
      omega

/-- The tasks of a batch get in, and start, in the order of the pushes. -/
theorem goesInOrder (opened : openNoted? options = .ok start) (before : List (Event Body))
    (scope : ScopeId) : start.GoesInOrder options before scope where
  pushed := sublist_pushing opened before scope
  inTurn _ orderly := ((kept_of_opened opened).1.after before).startsFor_sublist orderly
  fillsUp refuses unclosed going := fillsUp_of_opened opened refuses unclosed going

/-- Two slots that do not block. -/
def pair : Options := { Options.ofCapacity 2 with nonblocking := true }

/-- One more body than there are slots waits for its batch to be run. -/
def overfull : List (Event Unit) :=
  [.openScope .root, .push ⟨1⟩ "first" (), .push ⟨1⟩ "second" (), .push ⟨1⟩ "third" ()]

/-- The last task of three is refused where there are two slots. -/
theorem goesInOrder_overfull : ∃ start : Yard Unit, openNoted? pair = .ok start ∧
    (start.after overfull).slots.idle = 2 ∧ (start.after overfull).ended? ⟨1⟩ = none ∧
    (start.after overfull).refusing ⟨0⟩ (.begin (.exec ⟨1⟩)) =
      [(⟨2, "third"⟩, .saturated 2)] ∧
    start.GoesInOrder pair overfull ⟨1⟩ := by
  have run : ∃ start : Yard Unit, openNoted? pair = .ok start ∧
      (start.after overfull).slots.idle = 2 ∧ (start.after overfull).ended? ⟨1⟩ = none ∧
      (start.after overfull).refusing ⟨0⟩ (.begin (.exec ⟨1⟩)) =
        [(⟨2, "third"⟩, .saturated 2)] := ⟨_, rfl, rfl, rfl, rfl⟩
  obtain ⟨start, opened, idle, going, refused⟩ := run
  exact ⟨start, opened, idle, going, refused, goesInOrder opened overfull ⟨1⟩⟩

end Yard

end Taskyard

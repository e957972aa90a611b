/-
This file shows that a task that was pushed runs at most once, whatever else
happens: on whichever way it goes from the backlog to a batch, from the batch to
a slot and from the slot to its start, there is never more than one of it. It is
started by the call that took it out of the backlog, under the scope under which
it was pushed. On every way out it is lost for good: if the push fails, if it is
discarded or cleared, if its scope has ended when its batch is to begin, if it is
refused a slot, or if the call that took it ends before it has one. What is
pushed while a batch runs is left to the next one.
-/

import Taskyard.Proofs.Pushes
import Taskyard.Proofs.Starts

namespace Taskyard

variable {Body : Type}

/-- Two members of a list that both count are the same if only one counts. -/
theorem eq_of_countP_le_one {Item : Type} {counts : Item → Bool} {items : List Item}
    (single : items.countP counts ≤ 1) {first second : Item} (one : first ∈ items)
    (two : second ∈ items) (oneCounts : counts first = true) (twoCounts : counts second = true) :
    first = second := by
  have one := List.mem_filter.mpr ⟨one, oneCounts⟩
  have two := List.mem_filter.mpr ⟨two, twoCounts⟩
  rw [List.countP_eq_length_filter] at single
  obtain ⟨only, filtered⟩ := List.length_eq_one_iff.mp
    (Nat.le_antisymm single (List.length_pos_of_mem one))
  rw [filtered, List.mem_singleton] at one two
  rw [one, two]

/-- What is in a list is in one in which nothing counts less. -/
theorem mem_of_countP_le {Item : Type} {first second : List Item} {item : Item}
    (fewer : ∀ mine : Item → Bool, (∀ other, mine other = true → other = item) →
      first.countP mine ≤ second.countP mine)
    (member : item ∈ first) : item ∈ second := by
  classical
  have counted := fewer (fun other => other = item) fun _ same => of_decide_eq_true same
  have one : 0 < first.countP fun other => other = item :=
    List.countP_pos_iff.mpr ⟨item, member, by simp⟩
  obtain ⟨other, listed, same⟩ := List.countP_pos_iff.mp (Nat.lt_of_lt_of_le one counted)
  exact of_decide_eq_true same ▸ listed

namespace Yard

variable {yard start : Yard Body} {task : TaskId}

/-! ### Where a task may be -/

/-- Whether a body is that of a task. -/
def Assignment.isFor (task : TaskId) (assignment : Assignment Body) : Bool :=
  assignment.purpose.task? == some task

/-- In how many places a task is from which it may still come to its start. -/
def stake (yard : Yard Body) (task : TaskId) : Nat :=
  yard.outstanding.countP (Assignment.isFor task) +
    yard.backlog.entries.countP fun item => item.2.task = task

/-- The tasks that were started, once for each start. -/
def startedTasks (start : Yard Body) (history : List (Event Body)) : List TaskId :=
  (start.chronicle starting history).filterMap fun job => job.purpose.task?

theorem countP_ordering (yard : Yard Body) (event : Event Body) (task : TaskId) :
    (yard.ordering event).countP (Assignment.isFor task) =
      (yard.taking event).countP fun item => item.2.task = task := by
  cases event with
  | begin request =>
    cases request with
    | exec scope =>
      simp only [ordering, assignments, taking, List.countP_map]
      rfl
    | _ => rfl
  | _ => rfl

theorem countP_orders (start : Yard Body) (history : List (Event Body)) (task : TaskId) :
    (start.chronicle ordering history).countP (Assignment.isFor task) =
      (start.chronicle taking history).countP fun item => item.2.task = task := by
  induction history generalizing start with
  | nil => rfl
  | cons event rest inductionHypothesis =>
    rw [chronicle, chronicle, List.countP_append, List.countP_append, countP_ordering,
      inductionHypothesis]

theorem count_startedTasks (start : Yard Body) (history : List (Event Body)) (task : TaskId) :
    (start.startedTasks history).count task =
      ((start.chronicle starting history).map Job.assignment).countP (Assignment.isFor task) := by
  rw [startedTasks, List.count_filterMap, List.countP_map]
  rfl

/-- What a history does to the places of a task: it comes to one of them by its push, and leaves one
for every start and every refusal. -/
theorem Kept.stake_after (kept : yard.Kept) (distinct : yard.backlog.batches.keys.Nodup)
    (history : List (Event Body)) (task : TaskId) :
    (yard.after history).stake task + (yard.startedTasks history).count task +
        (yard.after history).refusals.count task ≤
      yard.stake task + yard.refusals.count task +
        (yard.chronicle pushing history).countP fun item => item.2.task = task := by
  obtain ⟨refused, refusals, counts⟩ := kept.balances_after history
  have balanced := counts (Assignment.isFor task)
  have stocked := (kept.stocks_after distinct history).counts fun item => item.2.task = task
  have refusedTasks : (refused.filterMap fun assignment => assignment.purpose.task?).count task =
      refused.countP (Assignment.isFor task) := List.count_filterMap
  rw [← count_startedTasks, countP_orders] at balanced
  rw [refusals, List.count_append, refusedTasks]
  unfold stake
  omega

/-- A task is pushed at most once, and not at all if it was numbered before. -/
theorem Kept.countP_pushing (kept : yard.Kept) (distinct : yard.backlog.batches.keys.Nodup)
    (history : List (Event Body)) (task : TaskId) :
    ((yard.chronicle pushing history).countP fun item => item.2.task = task) ≤
      if task.serial < yard.taskCount then 0 else 1 := by
  have serials := kept.serials distinct history
  have fewer : ((yard.chronicle pushing history).countP fun item => item.2.task = task) ≤
      (List.range' yard.taskCount (yard.chronicle pushing history).length).count task.serial := by
    rw [← serials, List.count, List.countP_map]
    refine List.countP_mono_left fun item _ same => ?_
    simp [of_decide_eq_true same]
  refine Nat.le_trans fewer ?_
  split
  · next numbered =>
    refine Nat.le_of_eq (List.count_eq_zero_of_not_mem fun member => ?_)
    have later := (List.mem_range'_1.mp member).1
    omega
  · exact List.nodup_iff_count_le_one.mp List.nodup_range' _

/-! ### From the opening on -/

/-- Whether a call takes a task out of the backlog, to run it in a batch of a scope. -/
def Takes (start : Yard Body) (history : List (Event Body)) (call : CallId) (scope : ScopeId)
    (entry : Entry Body) : Prop :=
  ∃ before between, history = before ++ .begin (.exec scope) :: between ∧
    call = ((start.after before).begin (.exec scope)).1 ∧
    entry ∈ (start.after before).backlog.batch scope

variable {history : List (Event Body)} {call : CallId} {scope : ScopeId}

/-- A body that was asked to be run for a task is that of a task which its call took. -/
theorem takes_of_ordered {assignment : Assignment Body}
    (member : assignment ∈ start.chronicle ordering history)
    (purpose : assignment.purpose = .member call task scope) :
    start.Takes history call scope ⟨task, assignment.body⟩ := by
  obtain ⟨before, event, between, rfl, ordered⟩ := mem_chronicle member
  cases event with
  | begin request =>
    cases request with
    | exec named =>
      obtain ⟨entry, listed, rfl⟩ := List.mem_map.mp ordered
      cases purpose
      exact ⟨before, between, rfl, rfl, listed⟩
    | submit body =>
      rw [List.mem_singleton.mp ordered] at purpose
      cases purpose
    | submitTask named body =>
      rw [List.mem_singleton.mp ordered] at purpose
      cases purpose
    | drain timeout => cases ordered
    | watch named => cases ordered
  | _ => cases ordered

theorem Takes.ordered {entry : Entry Body} (takes : start.Takes history call scope entry) :
    entry.assignment call scope ∈ start.chronicle ordering history := by
  obtain ⟨before, between, rfl, rfl, listed⟩ := takes
  exact mem_chronicle_of_mem (List.mem_map_of_mem listed) between

/-- What starts or may still start was ordered, if there was nothing before. -/
theorem Balances.mem {before later : Yard Body} {ordered started : List (Assignment Body)}
    (balances : before.Balances later ordered started) (nothing : before.outstanding = [])
    {assignment : Assignment Body}
    (member : assignment ∈ started ∨ assignment ∈ later.outstanding) : assignment ∈ ordered := by
  obtain ⟨_, -, counts⟩ := balances
  refine mem_of_countP_le (fun mine _ => ?_) (List.mem_append.mpr member)
  have counted := counts mine
  rw [nothing, List.countP_nil] at counted
  rw [List.countP_append]
  omega

theorem Stocks.mem {before later : Yard Body} {pushed taken : List (ScopeId × Entry Body)}
    (stocks : before.Stocks later pushed taken) (nothing : before.backlog.entries = [])
    {item : ScopeId × Entry Body} (member : item ∈ later.backlog.entries) : item ∈ pushed := by
  refine mem_of_countP_le (fun mine _ => ?_) member
  have counted := stocks.counts mine
  rw [nothing, List.countP_nil] at counted
  omega

/-- A task in the backlog has its place there. -/
theorem one_le_entries (distinct : yard.backlog.batches.keys.Nodup) {entry : Entry Body}
    (member : entry ∈ yard.backlog.batch scope) :
    1 ≤ yard.backlog.entries.countP fun item => item.2.task = entry.task :=
  List.countP_pos_iff.mpr ⟨_, Backlog.mem_entries distinct member, by simp⟩

/-- A task that is alone in the backlog is not there when the batch of its scope is gone. -/
theorem entries_remove (distinct : yard.backlog.batches.keys.Nodup) {entry : Entry Body}
    (member : entry ∈ yard.backlog.batch scope)
    (single : (yard.backlog.entries.countP fun item => item.2.task = entry.task) ≤ 1) :
    ((yard.backlog.remove scope).entries.countP fun item => item.2.task = entry.task) = 0 := by
  rw [(Backlog.perm_entries distinct scope).countP_eq, List.countP_append] at single
  have own : 0 < ((yard.backlog.batch scope).map fun entry => (scope, entry)).countP fun item =>
      item.2.task = entry.task :=
    List.countP_pos_iff.mpr ⟨_, List.mem_map_of_mem member, by simp⟩
  omega

section

variable {options : Options} (opened : openNoted? options = .ok start)

include opened

theorem kept_of_opened : start.Kept ∧ start.backlog.batches.keys.Nodup := by
  refine ⟨(kept_openNoted? opened).1, ?_⟩
  obtain ⟨slots, -, rfl⟩ := openNoted?_eq opened
  exact List.nodup_nil

theorem nothing_of_opened : start.outstanding = [] ∧ start.backlog.entries = [] ∧
    start.refusals = [] ∧ start.taskCount = 0 := by
  obtain ⟨slots, -, rfl⟩ := openNoted?_eq opened
  exact ⟨rfl, rfl, rfl, rfl⟩

/-- The places of a task, its starts and its refusals are no more than its pushes. -/
theorem stake_le_pushing (history : List (Event Body)) (task : TaskId) :
    (start.after history).stake task + (start.startedTasks history).count task +
        (start.after history).refusals.count task ≤
      (start.chronicle pushing history).countP fun item => item.2.task = task := by
  obtain ⟨kept, distinct⟩ := kept_of_opened opened
  obtain ⟨outstanding, entries, refusals, -⟩ := nothing_of_opened opened
  have counted := kept.stake_after distinct history task
  unfold stake at counted ⊢
  rw [outstanding, entries, refusals] at counted
  simpa using counted

theorem countP_pushing_le (history : List (Event Body)) (task : TaskId) :
    ((start.chronicle pushing history).countP fun item => item.2.task = task) ≤ 1 := by
  obtain ⟨kept, distinct⟩ := kept_of_opened opened
  refine Nat.le_trans (kept.countP_pushing distinct history task) ?_
  split <;> decide

/-- A task that was pushed has its number. -/
theorem numbered_of_pushed {history : List (Event Body)}
    (pushed : 0 < (start.chronicle pushing history).countP fun item => item.2.task = task) :
    task.serial < (start.after history).taskCount := by
  obtain ⟨kept, distinct⟩ := kept_of_opened opened
  obtain ⟨item, listed, same⟩ := List.countP_pos_iff.mp pushed
  have serial : item.2.task.serial ∈
      (start.chronicle pushing history).map fun item => item.2.task.serial :=
    List.mem_map_of_mem listed
  rw [kept.serials distinct, List.mem_range'_1, of_decide_eq_true same] at serial
  rw [(kept.stocks_after distinct history).numbered]
  exact serial.2

/-- A task is in one place at most. -/
theorem stake_le (history : List (Event Body)) (task : TaskId) :
    (start.after history).stake task + (start.startedTasks history).count task +
      (start.after history).refusals.count task ≤ 1 :=
  Nat.le_trans (stake_le_pushing opened history task) (countP_pushing_le opened history task)

/-- A task that is nowhere any more and that was numbered does not start any more. -/
theorem not_mem_startedTasks {earlier later : List (Event Body)}
    (numbered : task.serial < (start.after earlier).taskCount)
    (lost : (start.after earlier).stake task = 0)
    (unstarted : task ∉ start.startedTasks earlier) :
    task ∉ start.startedTasks (earlier ++ later) := by
  obtain ⟨kept, distinct⟩ := kept_of_opened opened
  have distinctThen := (kept.stocks_after distinct earlier).distinct
  have counted := (kept.after earlier).stake_after distinctThen later task
  have pushed := (kept.after earlier).countP_pushing distinctThen later task
  rw [if_pos numbered] at pushed
  have stay : (start.after earlier).refusals.count task ≤
      ((start.after earlier).after later).refusals.count task := by
    obtain ⟨refused, refusals, -⟩ := (kept.after earlier).balances_after later
    rw [refusals, List.count_append]
    exact Nat.le_add_right _ _
  have none : ((start.after earlier).startedTasks later).count task = 0 := by omega
  have split : start.startedTasks (earlier ++ later) =
      start.startedTasks earlier ++ (start.after earlier).startedTasks later := by
    rw [startedTasks, chronicle_append, List.filterMap_append, startedTasks, startedTasks]
  rw [split, List.mem_append, not_or]
  exact ⟨unstarted, List.count_eq_zero.mp none⟩

/-- A task that has its place somewhere, or was refused, has not started. -/
theorem unstarted_of_stake {history : List (Event Body)}
    (placed : 1 ≤ (start.after history).stake task + (start.after history).refusals.count task) :
    task ∉ start.startedTasks history := by
  have single := stake_le opened history task
  exact List.count_eq_zero.mp (by omega)

/-- A task that has its place and loses it in an event never starts. -/
theorem not_mem_of_lost {earlier later : List (Event Body)} {event : Event Body}
    (numbered : task.serial < (start.after earlier).taskCount)
    (placed : 1 ≤ (start.after earlier).stake task)
    (starts : (start.after earlier).starting event = [])
    (lost : ((start.after earlier).step event).stake task = 0) :
    task ∉ start.startedTasks (earlier ++ event :: later) := by
  obtain ⟨kept, distinct⟩ := kept_of_opened opened
  have stocks :=
    (kept.after earlier).stocks_step (kept.stocks_after distinct earlier).distinct event
  rw [List.append_cons]
  refine not_mem_startedTasks opened ?_ ?_ ?_
  · rw [after_concat, stocks.numbered]
    exact Nat.lt_of_lt_of_le numbered (Nat.le_add_right _ _)
  · rwa [after_concat]
  · rw [startedTasks, chronicle_concat, starts, List.append_nil]
    exact unstarted_of_stake opened (Nat.le_trans placed (Nat.le_add_right _ _))

/-- A task in the backlog is nowhere else, and nowhere any more after an event that takes the batch
of its scope away and gives it to nobody. -/
theorem not_mem_of_removed {earlier later : List (Event Body)} {event : Event Body}
    {entry : Entry Body} (member : entry ∈ (start.after earlier).backlog.batch scope)
    (starts : (start.after earlier).starting event = [])
    (removed : ((start.after earlier).step event).backlog =
        (start.after earlier).backlog.remove scope ∨
      ((start.after earlier).step event).backlog = .empty)
    (unmoved : ((start.after earlier).step event).outstanding.countP (Assignment.isFor entry.task) ≤
      (start.after earlier).outstanding.countP (Assignment.isFor entry.task)) :
    entry.task ∉ start.startedTasks (earlier ++ event :: later) := by
  obtain ⟨kept, distinct⟩ := kept_of_opened opened
  have distinctThen := (kept.stocks_after distinct earlier).distinct
  have single := stake_le opened earlier entry.task
  have stored := one_le_entries distinctThen member
  refine not_mem_of_lost opened ((kept.after earlier).stocked.known scope entry member)
    (Nat.le_trans stored (Nat.le_add_left _ _)) starts ?_
  unfold stake at single ⊢
  have gone : (((start.after earlier).step event).backlog.entries.countP fun item =>
      item.2.task = entry.task) = 0 := by
    rcases removed with remove | clear
    · rw [remove]
      exact entries_remove distinctThen member (by omega)
    · rw [clear]
      rfl
  omega

/-- A task whose scope has ended when its batch is to begin never starts. -/
theorem not_mem_of_late {earlier later : List (Event Body)} {entry : Entry Body}
    (ended : (start.after earlier).ended? scope ≠ none)
    (member : entry ∈ (start.after earlier).backlog.batch scope) :
    entry.task ∉ start.startedTasks (earlier ++ .begin (.exec scope) :: later) := by
  have kept := (kept_of_opened opened).1.after earlier
  obtain ⟨_, -, counts⟩ := kept.balances_begin (.exec scope)
  have nothing : (start.after earlier).offered (.exec scope) = [] := by
    rw [offered, isTooLate, if_pos (Option.isSome_iff_ne_none.mpr ended)]
  have counted := counts (Assignment.isFor entry.task)
  rw [nothing] at counted
  exact not_mem_of_removed opened member rfl
    (.inl (congrArg Surroundings.backlog (kept.surroundings_begin _)))
    (Nat.le_trans (Nat.le_add_right _ _) counted)

/-- A task that was refused a slot never starts. -/
theorem not_mem_of_refused {earlier later : List (Event Body)}
    (refused : task ∈ (start.after earlier).refusals) :
    task ∉ start.startedTasks (earlier ++ later) := by
  have counted := List.count_pos_iff.mpr refused
  have pushed := stake_le_pushing opened earlier task
  have single := stake_le opened earlier task
  refine not_mem_startedTasks opened (numbered_of_pushed opened (by omega)) (by omega) ?_
  exact unstarted_of_stake opened (Nat.le_trans counted (Nat.le_add_left _ _))

/-- A task is in the backlog or was taken out of it, and only once. -/
theorem countP_orders_le (history : List (Event Body)) (task : TaskId) :
    ((start.after history).backlog.entries.countP fun item => item.2.task = task) +
      (start.chronicle ordering history).countP (Assignment.isFor task) ≤ 1 := by
  obtain ⟨kept, distinct⟩ := kept_of_opened opened
  have counted := (kept.stocks_after distinct history).counts fun item => item.2.task = task
  have pushed := countP_pushing_le opened history task
  rw [(nothing_of_opened opened).2.1, List.countP_nil] at counted
  rw [countP_orders]
  omega

/-- What is done for a task after a call took it is done by this call. -/
theorem eq_of_takes {entry : Entry Body} (takes : start.Takes history call scope entry)
    {assignment : Assignment Body} (member : assignment ∈ start.chronicle ordering history)
    (same : assignment.purpose.task? = some entry.task) :
    assignment = entry.assignment call scope := by
  have single := countP_orders_le opened history entry.task
  refine eq_of_countP_le_one (Nat.le_trans (Nat.le_add_left _ _) single) member takes.ordered ?_ ?_
  · simp [Assignment.isFor, same]
  · simp [Assignment.isFor, Entry.assignment, Purpose.task?]

/-- A task whose call has ended before there was a job for it never starts. -/
theorem not_mem_of_givenUp {earlier later : List (Event Body)} {entry : Entry Body}
    (takes : start.Takes earlier call scope entry)
    (ended : (start.after earlier).calls.get? call = none)
    (unadmitted : ∀ before, before <+: earlier → ∀ job ∈ (start.after before).jobs,
      job.purpose.task? ≠ some entry.task) :
    entry.task ∉ start.startedTasks (earlier ++ later) := by
  obtain ⟨kept, distinct⟩ := kept_of_opened opened
  have ordered := List.countP_pos_iff.mpr ⟨_, takes.ordered,
    show Assignment.isFor entry.task (entry.assignment call scope) = true by
      simp [Assignment.isFor, Entry.assignment, Purpose.task?]⟩
  have single := countP_orders_le opened earlier entry.task
  refine not_mem_startedTasks opened (numbered_of_pushed opened ?_) ?_ ?_
  · have stocks := (kept.stocks_after distinct earlier).counts fun item => item.2.task = entry.task
    rw [(nothing_of_opened opened).2.1, List.countP_nil, ← countP_orders] at stocks
    omega
  · have nowhere : (start.after earlier).outstanding.countP (Assignment.isFor entry.task) = 0 := by
      refine List.countP_eq_zero.mpr fun assignment member mine => ?_
      have named := eq_of_takes opened takes
        ((kept.balances_after earlier).mem (nothing_of_opened opened).1 (.inr member))
        (by simpa [Assignment.isFor] using mine)
      rcases List.mem_append.mp member with readied | asked
      · obtain ⟨job, listed, rfl⟩ := List.mem_map.mp readied
        refine unadmitted earlier List.prefix_rfl job (List.mem_of_mem_filter listed) ?_
        exact congrArg (fun assignment => assignment.purpose.task?) named
      · obtain ⟨⟨id, held⟩, listed, wants⟩ := List.mem_flatMap.mp asked
        have own : call = id := Call.patron_of_mem_assignments wants (named ▸ rfl)
        subst own
        have callsDistinct := (kept.after earlier).inOrder.callsDistinct
        rw [(Listing.get?_eq_some_iff callsDistinct).mpr listed] at ended
        cases ended
    unfold stake
    omega
  · intro started
    obtain ⟨job, listed, same⟩ := List.mem_filterMap.mp started
    obtain ⟨before, event, rest, rfl, starts⟩ := mem_chronicle listed
    cases event with
    | start id =>
      exact unadmitted before (List.prefix_append _ _) job (List.mem_of_mem_filter starts) same
    | _ => cases starts

end

/-- What is promised of the tasks that are pushed in the course of a history. -/
structure RunsOnce (start : Yard Body) (history : List (Event Body)) : Prop where
  /-- No task starts twice. -/
  once : (start.startedTasks history).Nodup
  /-- No task is taken out of the backlog twice. -/
  single : ∀ call scope entry other under same, start.Takes history call scope entry →
    start.Takes history other under same → entry.task = same.task → call = other ∧ scope = under
  /-- What is in the backlog of a scope was pushed under it, and the push succeeded. -/
  stored : ∀ scope, ∀ entry ∈ (start.after history).backlog.batch scope,
    (scope, entry) ∈ start.chronicle pushing history
  /-- A body that starts for a task is that of the task which its call took, under its scope. -/
  origin : ∀ earlier event later, history = earlier ++ event :: later →
    ∀ job ∈ (start.after earlier).starting event, ∀ call task scope,
      job.purpose = .member call task scope → start.Takes earlier call scope ⟨task, job.body⟩
  /-- A push that fails leaves no task. -/
  failed : ∀ earlier scope label body later error,
    history = earlier ++ .push scope label body :: later →
    ((start.after earlier).push scope label body).1 = .error error →
    (start.after earlier).pushing (.push scope label body) = [] ∧
      ((start.after earlier).push scope label body).2.backlog = (start.after earlier).backlog ∧
      ((start.after earlier).push scope label body).2.floor = (start.after earlier).floor
  /-- A task that is discarded, or cleared when everything is released, never starts. -/
  dropped : ∀ earlier event later scope, history = earlier ++ event :: later →
    event = .discard scope ∨ event = .release →
    ∀ entry ∈ (start.after earlier).backlog.batch scope,
      entry.task ∉ start.startedTasks history
  /-- A task never starts if its scope has ended when the batch of the scope is to begin. -/
  tooLate : ∀ earlier later scope, history = earlier ++ .begin (.exec scope) :: later →
    (start.after earlier).ended? scope ≠ none →
    ∀ entry ∈ (start.after earlier).backlog.batch scope,
      entry.task ∉ start.startedTasks history
  /-- A task that was refused a slot never starts. -/
  refused : ∀ earlier later scope task error, history = earlier ++ later →
    .notSubmitted scope task error ∈ (start.after earlier).journal →
    task ∉ start.startedTasks history
  /-- A task never starts if the call that took it is over, answered or given up, before the task
  has got a slot. -/
  givenUp : ∀ earlier later call scope entry, history = earlier ++ later →
    start.Takes earlier call scope entry → (start.after earlier).calls.get? call = none →
    (∀ before, before <+: earlier → ∀ job ∈ (start.after before).jobs,
      job.purpose.task? ≠ some entry.task) →
    entry.task ∉ start.startedTasks history
  /-- What is pushed goes to the end of the next batch of the scope. No call that has begun before
  starts it. -/
  nextBatch : ∀ earlier scope label body later task,
    history = earlier ++ .push scope label body :: later →
    ((start.after earlier).push scope label body).1 = .ok task →
    ((start.after earlier).push scope label body).2.backlog.batch scope =
        (start.after earlier).backlog.batch scope ++ [⟨task, body⟩] ∧
      ∀ job ∈ start.chronicle starting history, job.purpose.task? = some task →
        ∀ call, call.serial < (start.after earlier).callCount → job.purpose.patron? ≠ some call

section

variable {options : Options} (opened : openNoted? options = .ok start)

include opened

/-- A body that starts for a task was ordered by the call that took it. -/
theorem takes_of_starting {earlier : List (Event Body)} {event : Event Body} {job : Job Body}
    (starts : job ∈ (start.after earlier).starting event)
    (purpose : job.purpose = .member call task scope) :
    start.Takes earlier call scope ⟨task, job.body⟩ := by
  have kept := (kept_openNoted? opened).1
  have started : job.assignment ∈
      (start.chronicle starting (earlier ++ [event])).map Job.assignment := by
    rw [chronicle_concat]
    exact List.mem_map_of_mem (List.mem_append_right _ starts)
  have ordered :=
    (kept.balances_after (earlier ++ [event])).mem (nothing_of_opened opened).1 (.inl started)
  have nothing : (start.after earlier).ordering event = [] := by
    cases event with
    | start id => rfl
    | _ => cases starts
  rw [chronicle_concat, nothing, List.append_nil] at ordered
  exact takes_of_ordered ordered purpose

theorem nodup_startedTasks (history : List (Event Body)) : (start.startedTasks history).Nodup := by
  refine List.nodup_iff_count_le_one.mpr fun task => ?_
  have single := stake_le opened history task
  omega

/-- No call that has begun before a push starts the task that is pushed. -/
theorem patron_ne_of_pushed {earlier later : List (Event Body)} {label : String} {body : Body}
    (stored : ((start.after earlier).push scope label body).1 = .ok task) {job : Job Body}
    (member : job ∈ start.chronicle starting (earlier ++ .push scope label body :: later))
    (same : job.purpose.task? = some task)
    (before : call.serial < (start.after earlier).callCount) :
    job.purpose.patron? ≠ some call := by
  obtain ⟨kept, distinct⟩ := kept_of_opened opened
  have ordered := (kept.balances_after (earlier ++ .push scope label body :: later)).mem
    (nothing_of_opened opened).1 (.inl (List.mem_map_of_mem member))
  cases purpose : job.purpose with
  | errand => simp [Purpose.patron?]
  | solo id => simp [purpose, Purpose.task?] at same
  | member id named under =>
    rw [purpose] at same
    cases same
    rintro ⟨⟩
    obtain ⟨first, between, split, rfl, listed⟩ := takes_of_ordered ordered purpose
    -- The task was not in the backlog before the push, so its batch is taken after it.
    rcases List.append_eq_append_iff.mp split with ⟨more, rfl, -⟩ | ⟨more, rfl, -⟩
    · have grown := (kept.after earlier).callCount_le_after more
      rw [after_append] at before
      exact absurd before (Nat.not_lt_of_le grown)
    · have known := (kept.after first).stocked.known under _ listed
      have stocks :=
        (kept.after first).stocks_after (kept.stocks_after distinct first).distinct more
      have pushed : (scope, (⟨task, body⟩ : Entry Body)) ∈
          (start.after (first ++ more)).pushing (.push scope label body) := by
        simp [pushing, stored]
      have serial := serial_of_pushing pushed
      rw [after_append, stocks.numbered] at serial
      simp only at known serial
      omega

/-- A task that was pushed starts at most once, for the call that took it, and never if it was lost
on the way. -/
theorem runsOnce (history : List (Event Body)) : start.RunsOnce history := by
  obtain ⟨kept, distinct⟩ := kept_of_opened opened
  exact {
    once := nodup_startedTasks opened history
    single := fun call scope entry other under same takes also task => by
      have equal := eq_of_takes opened takes also.ordered (by
        simp [Entry.assignment, Purpose.task?, task])
      have purposes := congrArg Assignment.purpose equal
      simp only [Entry.assignment, Purpose.member.injEq] at purposes
      exact ⟨purposes.1.symm, purposes.2.2.symm⟩
    stored := fun scope entry listed => by
      have stocks := kept.stocks_after distinct history
      exact stocks.mem (nothing_of_opened opened).2.1 (Backlog.mem_entries stocks.distinct listed)
    origin := fun earlier event later _ job starts call task scope purpose =>
      takes_of_starting opened starts purpose
    failed := fun earlier scope label body later error _ failed => by
      rcases (start.after earlier).push_cases scope label body with
        ⟨-, nothing, backlog, -⟩ | ⟨stored, -⟩
      · obtain ⟨_, _, _, _, -, pushed⟩ := push_eq (start.after earlier) scope label body
        exact ⟨nothing, backlog, by rw [pushed]; rfl⟩
      · rw [failed] at stored
        cases stored
    dropped := fun earlier event later scope split drops entry listed => by
      subst split
      rcases drops with rfl | rfl
      · exact not_mem_of_removed opened listed rfl (.inl rfl) (Nat.le_refl _)
      · exact not_mem_of_removed opened listed rfl (.inr rfl) (Nat.le_refl _)
    tooLate := fun earlier later scope split ended entry listed =>
      split ▸ not_mem_of_late opened ended listed
    refused := fun earlier later scope task error split noted =>
      split ▸ not_mem_of_refused opened (List.mem_filterMap.mpr ⟨_, noted, rfl⟩)
    givenUp := fun earlier later call scope entry split takes ended unadmitted =>
      split ▸ not_mem_of_givenUp opened takes ended unadmitted
    nextBatch := fun earlier scope label body later task split stored => by
      subst split
      refine ⟨?_, fun job member same call before =>
        patron_ne_of_pushed opened stored member same before⟩
      rcases (start.after earlier).push_cases scope label body with
        ⟨⟨error, failed⟩, -⟩ | ⟨named, -, backlog, -⟩
      · rw [failed] at stored
        cases stored
      · rw [stored] at named
        cases named
        rw [backlog, Backlog.batch_push, if_pos rfl] }

end

/-- The first of two tasks runs and a third is pushed when the call is given up; then the next batch
is run. -/
def interrupted : List (Event Unit) :=
  [.openScope .root, .push ⟨1⟩ "first" (), .push ⟨1⟩ "second" (), .begin (.exec ⟨1⟩), .start ⟨0⟩,
    .push ⟨1⟩ "third" (), .drop ⟨0⟩, .finish ⟨0⟩ (.panicked .other), .begin (.exec ⟨1⟩), .start ⟨1⟩]

/-- The task that had no slot when its call was given up is never started, and the third one is
started by the second call. -/
theorem runsOnce_interrupted : ∃ start : Yard Unit, openNoted? (.ofCapacity 1) = .ok start ∧
    start.startedTasks interrupted = [⟨0, "first"⟩, ⟨2, "third"⟩] ∧
    (start.chronicle starting interrupted).map Job.purpose =
      [.member ⟨0⟩ ⟨0, "first"⟩ ⟨1⟩, .member ⟨1⟩ ⟨2, "third"⟩ ⟨1⟩] ∧
    start.RunsOnce interrupted := by
  have run : ∃ start : Yard Unit, openNoted? (.ofCapacity 1) = .ok start ∧
      start.startedTasks interrupted = [⟨0, "first"⟩, ⟨2, "third"⟩] ∧
      (start.chronicle starting interrupted).map Job.purpose =
        [.member ⟨0⟩ ⟨0, "first"⟩ ⟨1⟩, .member ⟨1⟩ ⟨2, "third"⟩ ⟨1⟩] := ⟨_, rfl, rfl, rfl⟩
  obtain ⟨start, opened, tasks, purposes⟩ := run
  exact ⟨start, opened, tasks, purposes, runsOnce opened interrupted⟩

end Yard

end Taskyard

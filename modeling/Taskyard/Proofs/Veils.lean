/-
This file draws a veil over a yard. Behind it nobody sees what bodies come to
and what is written about it; perhaps not which task is which either, and of one
call perhaps nothing but that it is there. What decides about the next thing to
happen stays in sight: the clock, the scopes, the slots, who waits, which bodies
there are. Two yards that look alike through a veil therefore go on to look alike
when the same happens to both of them, and the same calls are answered.
-/

import Taskyard.Proofs.Chronicle
import Taskyard.Proofs.Order.Bystanders

namespace Taskyard

variable {Body : Type}

/-- Of two things that look alike both are there or none is. -/
theorem both_or_none {Item Seen : Type} {view : Item → Seen} {first second : Option Item}
    (same : first.map view = second.map view) : (first = none ∧ second = none) ∨
      ∃ item other, first = some item ∧ second = some other ∧ view item = view other := by
  cases first <;> cases second <;> simp_all

/-! ### Listings of which only a part is seen -/

namespace Listing

variable {Key Item : Type} {view : Key → Item → Item}

/-- A listing as it is seen when of each item only a part is. -/
def seen (view : Key → Item → Item) (listing : Listing Key Item) : Listing Key Item :=
  listing.map fun entry => (entry.1, view entry.1 entry.2)

variable [DecidableEq Key]

theorem get?_seen (key : Key) (listing : Listing Key Item) :
    get? key (seen view listing) = (get? key listing).map (view key) := by
  induction listing with
  | nil => rfl
  | cons entry rest inductionHypothesis =>
    by_cases here : entry.1 = key
    · subst here
      simp [seen, get?]
    · simpa [seen, get?, here] using inductionHypothesis

theorem seen_amend (key : Key) (change : Item → Item) (item : Item) (listing : Listing Key Item)
    (same : ∀ found, view key (change found) = view key item) :
    seen view (amend key change listing) =
      amend key (fun _ => view key item) (seen view listing) := by
  induction listing with
  | nil => rfl
  | cons entry rest inductionHypothesis =>
    simp only [seen, amend, List.map_cons, List.map_map] at inductionHypothesis ⊢
    by_cases here : entry.1 = key
    · subst here
      simp [inductionHypothesis, same]
    · simp [here, inductionHypothesis]

theorem seen_put (key : Key) (item : Item) (listing : Listing Key Item) :
    seen view (put key item listing) = put key (view key item) (seen view listing) := by
  unfold put
  rw [get?_seen, Option.isSome_map]
  split
  · exact seen_amend key _ item listing fun _ => rfl
  · simp [seen]

theorem seen_remove (key : Key) (listing : Listing Key Item) :
    seen view (remove key listing) = remove key (seen view listing) := by
  simp only [seen, remove, List.filter_map]
  rfl

/-- Changes that look the same make the same of listings that look the same. -/
theorem seen_amend_congr {key : Key} {change other : Item → Item}
    (same : ∀ {first second}, view key first = view key second →
      view key (change first) = view key (other second))
    {first second : Listing Key Item} (alike : seen view first = seen view second) :
    seen view (amend key change first) = seen view (amend key other second) := by
  induction first generalizing second with
  | nil =>
    rw [List.map_eq_nil_iff.mp alike.symm]
    rfl
  | cons entry rest inductionHypothesis =>
    cases second with
    | nil => cases alike
    | cons entry' rest' =>
      obtain ⟨key', item⟩ := entry
      obtain ⟨key'', item'⟩ := entry'
      simp only [seen, List.map_cons, List.cons.injEq, Prod.mk.injEq] at alike
      obtain ⟨⟨rfl, items⟩, rests⟩ := alike
      have behind := inductionHypothesis rests
      simp only [seen, amend, List.map_cons] at behind ⊢
      rw [behind]
      by_cases here : key' = key
      · subst here
        simp [same items]
      · simp [here, items]

end Listing

/-! ### Veils -/

/-- What is seen of tasks, and the call of which only is seen that it is there. -/
structure Veil where
  /-- As what a task is seen. -/
  task : TaskId → TaskId
  /-- As what the count of tasks is seen. -/
  count : Nat → Nat
  masked : Option CallId
  /-- The next task looks alike where the counts do. -/
  task_congr : ∀ {first second : Nat}, count first = count second →
    ∀ label, task ⟨first, label⟩ = task ⟨second, label⟩
  count_congr : ∀ {first second : Nat}, count first = count second →
    count (first + 1) = count (second + 1)

namespace Veil

/-- The veil that hides only what bodies come to. -/
def overOutputs : Veil where
  task := id
  count := id
  masked := none
  task_congr same label := congrArg (TaskId.mk · label) same
  count_congr same := congrArg Nat.succ same

/-- The veil that hides also which task is which, and what a call is. -/
def overCall (call : CallId) : Veil where
  task _ := ⟨0, ""⟩
  count _ := 0
  masked := some call
  task_congr _ _ := rfl
  count_congr _ := rfl

variable (veil : Veil)

def entry (item : Entry Body) : Entry Body := ⟨veil.task item.task, item.body⟩

/-- On whose behalf a body runs is seen, except for what is masked. -/
def purpose : Purpose → Purpose
  | .errand => .errand
  | .solo call => .solo call
  | .member call task scope =>
      if veil.masked = some call then .solo call else .member call (veil.task task) scope

def job (held : Job Body) : Job Body := { held with purpose := veil.purpose held.purpose }

/-- An output, of which is seen only that it is there. -/
def output (_ : Output) : Output := .error (.submit .closed)

def batch (held : Batch Body) : Batch Body :=
  { held with
    tasks := held.tasks.map veil.task
    unsubmitted := held.unsubmitted.map veil.entry
    inbox := held.inbox.map fun came => (veil.task came.1, output came.2)
    outcome := .empty }

/-- What is seen of a call that is not masked. -/
def bare : Call Body → Call Body
  | .solo scope reply => .solo scope (reply.map output)
  | .batch held => .batch (veil.batch held)
  | call => call

/-- What is seen of a call. The masked one might be any. -/
def call (id : CallId) (held : Call Body) : Call Body :=
  if veil.masked = some id then .watch ⟨0⟩ else veil.bare held

/-- What is seen of a note: only that a task was refused its slot. Such a note does not say for
which call the task was to run, so even this is hidden where a call is masked. -/
def note? : Note → Option Note
  | .notSubmitted scope task error =>
      if veil.masked.isSome then none else some (.notSubmitted scope (veil.task task) error)
  | _ => none

/-- Two yards that look alike through a veil. The timeout of the next batch is out of sight. -/
structure Alike (yard other : Yard Body) : Prop where
  now : yard.now = other.now
  options : yard.options = other.options
  scopes : yard.scopes = other.scopes
  slots : yard.slots = other.slots
  backlog : yard.backlog.batches.seen (fun _ => List.map veil.entry) =
    other.backlog.batches.seen (fun _ => List.map veil.entry)
  jobs : yard.jobs.map veil.job = other.jobs.map veil.job
  calls : yard.calls.seen veil.call = other.calls.seen veil.call
  taskCount : veil.count yard.taskCount = veil.count other.taskCount
  jobCount : yard.jobCount = other.jobCount
  callCount : yard.callCount = other.callCount
  journal : yard.journal.filterMap veil.note? = other.journal.filterMap veil.note?

/-- What comes of dealing with a call looks alike: either both times there is an answer, or none. -/
structure Agrees (result other : Option Reply × Yard Body) : Prop where
  answered : result.1.isSome = other.1.isSome
  alike : veil.Alike result.2 other.2

variable {veil} {yard other : Yard Body} {id : CallId}

theorem Alike.refl (yard : Yard Body) : veil.Alike yard yard :=
  ⟨rfl, rfl, rfl, rfl, rfl, rfl, rfl, rfl, rfl, rfl, rfl⟩

theorem Alike.symm (alike : veil.Alike yard other) : veil.Alike other yard :=
  ⟨alike.now.symm, alike.options.symm, alike.scopes.symm, alike.slots.symm, alike.backlog.symm,
    alike.jobs.symm, alike.calls.symm, alike.taskCount.symm, alike.jobCount.symm,
    alike.callCount.symm, alike.journal.symm⟩

theorem patron?_purpose (purpose : Purpose) : (veil.purpose purpose).patron? = purpose.patron? := by
  cases purpose with
  | errand | solo => rfl
  | member call task scope =>
    simp only [Veil.purpose]
    split <;> rfl

theorem worksFor_job (id : CallId) (held : Job Body) :
    Yard.worksFor id (veil.job held) = Yard.worksFor id held := by
  rw [Bool.eq_iff_iff, Yard.worksFor_iff, Yard.worksFor_iff, job, patron?_purpose]

/-- Calls that are not masked and look alike are of one kind. -/
theorem call_of_unmasked (unmasked : veil.masked ≠ some id) (held : Call Body) :
    veil.call id held = veil.bare held := if_neg unmasked

theorem call_congr {held kept : Call Body} (same : veil.bare held = veil.bare kept)
    (id : CallId) : veil.call id held = veil.call id kept := by
  unfold call
  rw [same]

/-- On whose behalf bodies run that look alike, if it is on that of a call that is not masked. -/
theorem kind_of_unmasked {purpose behalf : Purpose} (unmasked : veil.masked ≠ some id)
    (works : purpose.patron? = some id) (same : veil.purpose purpose = veil.purpose behalf) :
    (purpose = .solo id ∧ behalf = .solo id) ∨ ∃ task name scope,
      purpose = .member id task scope ∧ behalf = .member id name scope ∧
        veil.task task = veil.task name := by
  have also := congrArg Purpose.patron? same
  rw [patron?_purpose, patron?_purpose, works] at also
  cases purpose <;> cases works <;> cases behalf <;> cases also <;>
    simp_all [Veil.purpose]

/-- What a call hears of the end of a body is out of sight. -/
theorem hear_congr {purpose behalf : Purpose} (same : veil.purpose purpose = veil.purpose behalf)
    (works : purpose.patron? = some id) (output came : Output) {held kept : Call Body}
    (alike : veil.call id held = veil.call id kept) :
    veil.call id (held.hear purpose output) = veil.call id (kept.hear behalf came) := by
  by_cases masked : veil.masked = some id
  · simp only [call, masked, if_true]
  · rw [call_of_unmasked masked, call_of_unmasked masked] at alike ⊢
    rcases kind_of_unmasked masked works same with
      ⟨rfl, rfl⟩ | ⟨task, name, scope, rfl, rfl, tasks⟩
    · cases held with
      | solo scope reply =>
        cases kept with
        | solo under answer =>
          simp only [bare, Call.solo.injEq] at alike
          obtain ⟨rfl, -⟩ := alike
          cases reply <;> cases answer <;> rfl
        | _ => cases alike
      | _ => cases kept <;> first | exact alike | cases alike
    · cases held with
      | batch batch =>
        cases kept with
        | batch other =>
          have parts := Call.batch.inj alike
          simp only [Veil.batch, Batch.mk.injEq] at parts
          simp only [Call.hear, Call.receive, bare, Veil.batch, parts, tasks, List.map_append,
            List.map_cons, List.map_nil]
          rfl
        | _ => cases alike
      | _ => cases kept <;> first | exact alike | cases alike

namespace Alike

variable (alike : veil.Alike yard other)

include alike

/-! ### What is in sight -/

theorem ended? (scope : ScopeId) : yard.ended? scope = other.ended? scope := by
  rw [Yard.ended?, alike.scopes, alike.now, Yard.ended?]

theorem isUnmanned (id : CallId) : yard.isUnmanned id = other.isUnmanned id := by
  have same := congrArg (List.any · (Yard.worksFor id)) alike.jobs
  simp only [List.any_map] at same
  have seen : Yard.worksFor id ∘ veil.job = (Yard.worksFor id : Job Body → Bool) :=
    funext (worksFor_job id)
  rw [seen] at same
  rw [Yard.isUnmanned, same, Yard.isUnmanned]

theorem job? (id : JobId) : (yard.job? id).map veil.job = (other.job? id).map veil.job := by
  have same := congrArg (List.find? fun held => held.id = id) alike.jobs
  rw [List.find?_map, List.find?_map] at same
  exact same

theorem get?_calls (id : CallId) :
    (yard.calls.get? id).map (veil.call id) = (other.calls.get? id).map (veil.call id) := by
  rw [← Listing.get?_seen, alike.calls, Listing.get?_seen]

theorem get?_batches (scope : ScopeId) :
    (yard.backlog.batches.get? scope).map (List.map veil.entry) =
      (other.backlog.batches.get? scope).map (List.map veil.entry) := by
  have same := congrArg (Listing.get? scope) alike.backlog
  rwa [Listing.get?_seen, Listing.get?_seen] at same

/-! ### Small changes -/

theorem told (slots : Slots) :
    veil.Alike { yard with slots := slots } { other with slots := slots } :=
  { alike with slots := rfl }

theorem noted {note : Note} {said : Note} (same : veil.note? note = veil.note? said) :
    veil.Alike (yard.note note) (other.note said) :=
  { alike with
    journal := by
      simp only [Yard.note, List.filterMap_append, alike.journal, List.filterMap_cons, same] }

theorem unseen {note said : Note} (silent : veil.note? note = none)
    (alsoSilent : veil.note? said = none) : veil.Alike (yard.note note) (other.note said) :=
  alike.noted (silent.trans alsoSilent.symm)

theorem left {note : Note} (unseen : veil.note? note = none) : veil.Alike (yard.note note) other :=
  { alike with
    journal := by
      simp only [Yard.note, List.filterMap_append, alike.journal, List.filterMap_cons, unseen,
        List.filterMap_nil, List.append_nil] }

theorem enlist {purpose behalf : Purpose} (same : veil.purpose purpose = veil.purpose behalf)
    (body : Body) : veil.Alike (yard.enlist purpose body) (other.enlist behalf body) :=
  { alike with
    jobs := by
      simp only [Yard.enlist, List.map_append, alike.jobs, List.map_cons, List.map_nil, job,
        alike.jobCount, same]
    jobCount := congrArg Nat.succ alike.jobCount }

theorem keep {held kept : Call Body} (same : veil.call id held = veil.call id kept) :
    veil.Alike (yard.keep id held) (other.keep id kept) :=
  { alike with
    calls := by
      simp only [Yard.keep, Listing.seen_put, alike.calls, same] }

theorem drop (id : CallId) : veil.Alike (yard.drop id) (other.drop id) :=
  { alike with
    slots := congrArg (Slots.withdraw · id) alike.slots
    calls := by
      simp only [Yard.drop, Listing.seen_remove, alike.calls] }

theorem amend {change instead : Call Body → Call Body}
    (same : ∀ {held kept}, veil.call id held = veil.call id kept →
      veil.call id (change held) = veil.call id (instead kept)) :
    veil.Alike (yard.amend id change) (other.amend id instead) :=
  { alike with calls := Listing.seen_amend_congr same alike.calls }

theorem discharge (id : JobId) : veil.Alike (yard.discharge id) (other.discharge id) :=
  { alike with
    slots := congrArg Slots.leave alike.slots
    jobs := by
      have same := congrArg (List.filter fun held => held.id ≠ id) alike.jobs
      rw [List.filter_map, List.filter_map] at same
      exact same }

theorem settled (scope : ScopeId) (reason : EndReason) :
    veil.Alike { yard with scopes := yard.scopes.settle scope reason }
      { other with scopes := other.scopes.settle scope reason } :=
  { alike with scopes := congrArg (fun scopes => scopes.settle scope reason) alike.scopes }

/-! ### One body -/

theorem pollSubmit (id : CallId) (body : Body) (queued : Bool) :
    veil.Agrees (yard.pollSubmit id body queued) (other.pollSubmit id body queued) := by
  unfold Yard.pollSubmit
  rw [alike.slots]
  rcases other.slots.turn id queued with ⟨turn, slots⟩
  cases turn with
  | admitted => exact ⟨rfl, ((alike.told slots).enlist rfl body).drop id⟩
  | refused error => exact ⟨rfl, (alike.told slots).drop id⟩
  | queued => exact ⟨rfl, (alike.told slots).keep rfl⟩

theorem pollSolo (id : CallId) (scope : ScopeId) {reply answer : Option Output}
    (same : reply.map output = answer.map output) :
    veil.Agrees (yard.pollSolo id scope reply) (other.pollSolo id scope answer) := by
  cases reply with
  | some came =>
    cases answer with
    | none => cases same
    | some went => exact ⟨rfl, alike.drop id⟩
  | none =>
    cases answer with
    | some went => cases same
    | none =>
      have told := alike.ended? scope
      unfold Yard.pollSolo
      cases ended : other.ended? scope with
      | some reason =>
        rw [Yard.query_of_some ended, Yard.query_of_some (told.trans ended)]
        exact ⟨rfl, (alike.settled scope reason).drop id⟩
      | none =>
        rw [Yard.query_of_none ended, Yard.query_of_none (told.trans ended)]
        exact ⟨rfl, alike.keep rfl⟩

theorem pollSoloQueued (id : CallId) (scope : ScopeId) (body : Body) (queued : Bool) :
    veil.Agrees (yard.pollSoloQueued id scope body queued)
      (other.pollSoloQueued id scope body queued) := by
  unfold Yard.pollSoloQueued
  rw [alike.slots]
  rcases other.slots.turn id queued with ⟨turn, slots⟩
  cases turn with
  | admitted => exact ((alike.told slots).enlist rfl body).pollSolo id scope rfl
  | refused error => exact ⟨rfl, (alike.told slots).drop id⟩
  | queued =>
    have parked := alike.told slots
    have told := parked.ended? scope
    cases ended : { other with slots := slots }.ended? scope with
    | some reason =>
      simp only [Yard.query_of_some ended, Yard.query_of_some (told.trans ended)]
      exact ⟨rfl, (parked.settled scope reason).drop id⟩
    | none =>
      simp only [Yard.query_of_none ended, Yard.query_of_none (told.trans ended)]
      exact ⟨rfl, parked.keep rfl⟩

/-! ### A batch -/

omit alike in
/-- What is in sight of a batch. -/
theorem parts_of_batch {held kept : Batch Body} (same : veil.batch held = veil.batch kept) :
    held.scope = kept.scope ∧ held.deadline = kept.deadline ∧ held.queued = kept.queued ∧
      held.unsubmitted.map veil.entry = kept.unsubmitted.map veil.entry ∧
      held.inbox.isEmpty = kept.inbox.isEmpty := by
  simp only [batch, Batch.mk.injEq] at same
  obtain ⟨scope, -, -, deadline, -, unsubmitted, queued, inbox, -⟩ := same
  refine ⟨scope, deadline, queued, unsubmitted, ?_⟩
  simpa using congrArg List.isEmpty inbox

theorem dispatch (id : CallId) {held kept : Batch Body} (same : veil.batch held = veil.batch kept)
    (queued : Bool) {entries items : List (Entry Body)}
    (listed : entries.map veil.entry = items.map veil.entry) (outcome result : Outcome) :
    veil.batch (yard.dispatch id held queued entries outcome).1 =
        veil.batch (other.dispatch id kept queued items result).1 ∧
      veil.Alike (yard.dispatch id held queued entries outcome).2
        (other.dispatch id kept queued items result).2 := by
  have parts := same
  simp only [batch, Batch.mk.injEq] at parts
  obtain ⟨scope, timeout, begun, deadline, tasks, -, -, inbox, -⟩ := parts
  induction entries generalizing items queued yard other outcome result with
  | nil =>
    rw [List.map_eq_nil_iff.mp listed.symm]
    refine ⟨?_, alike⟩
    simp [Yard.dispatch, batch, scope, timeout, begun, deadline, tasks, inbox]
  | cons first rest inductionHypothesis =>
    cases items with
    | nil => cases listed
    | cons item others =>
      simp only [List.map_cons, List.cons.injEq] at listed
      obtain ⟨heads, rests⟩ := listed
      simp only [entry, Entry.mk.injEq] at heads
      obtain ⟨task, body⟩ := heads
      unfold Yard.dispatch
      rw [alike.slots]
      rcases other.slots.turn id queued with ⟨turn, slots⟩
      have told := alike.told slots
      cases turn with
      | admitted =>
        refine inductionHypothesis ?_ false rests outcome result
        rw [body]
        exact told.enlist (by simp only [purpose, task, scope]) item.body
      | refused error =>
        refine inductionHypothesis ?_ false rests _ _
        exact told.noted (by simp only [note?, task, scope])
      | queued =>
        refine ⟨?_, told⟩
        simp [batch, entry, scope, timeout, begun, deadline, tasks, inbox, rests, task, body]

/-- Nobody sees that outputs are entered into an outcome. -/
theorem collected (scope : ScopeId) (came : List (TaskId × Output)) (outcome : Outcome) :
    veil.Alike (Yard.collect scope came yard outcome).2 other := by
  induction came generalizing yard outcome with
  | nil => exact alike
  | cons first rest inductionHypothesis =>
    obtain ⟨task, output⟩ := first
    cases output with
    | ok value => exact inductionHypothesis alike _
    | error error => exact inductionHypothesis (alike.left rfl) _

theorem finish (id : CallId) (held kept : Batch Body) (outcome result : Outcome) :
    veil.Agrees (yard.finish id held outcome) (other.finish id kept result) := by
  refine ⟨rfl, Alike.drop ?_ id⟩
  exact alike.unseen rfl rfl

theorem awaitBatch (id : CallId) {held kept : Batch Body}
    (same : veil.batch held = veil.batch kept) :
    veil.Agrees (yard.awaitBatch id held) (other.awaitBatch id kept) := by
  obtain ⟨scope, deadline, -⟩ := parts_of_batch same
  have told := alike.ended? kept.scope
  unfold Yard.awaitBatch
  rw [alike.now, deadline, scope]
  split
  · refine Alike.finish ?_ id held kept _ _
    exact alike.unseen rfl rfl
  · cases ended : other.ended? kept.scope with
    | some reason =>
      simp only [Yard.query_of_some ended, Yard.query_of_some (told.trans ended)]
      refine Alike.finish ?_ id held kept _ _
      exact (alike.settled kept.scope reason).unseen rfl rfl
    | none =>
      simp only [Yard.query_of_none ended, Yard.query_of_none (told.trans ended)]
      refine ⟨rfl, alike.keep (call_congr ?_ id)⟩
      exact congrArg Call.batch same

theorem pollBatch (id : CallId) {held kept : Batch Body}
    (same : veil.batch held = veil.batch kept) :
    veil.Agrees (yard.pollBatch id held) (other.pollBatch id kept) := by
  obtain ⟨-, -, queued, unsubmitted, -⟩ := parts_of_batch same
  have dispatched := alike.dispatch id same held.queued unsubmitted held.outcome kept.outcome
  unfold Yard.pollBatch
  rw [← queued]
  rcases first : yard.dispatch id held held.queued held.unsubmitted held.outcome with ⟨sent, yard⟩
  rcases second : other.dispatch id kept held.queued kept.unsubmitted kept.outcome with
    ⟨went, other⟩
  rw [first, second] at dispatched
  obtain ⟨looks, after⟩ := dispatched
  simp only at looks after ⊢
  obtain ⟨scope, -, -, left, -⟩ := parts_of_batch looks
  have done : sent.unsubmitted.isEmpty = went.unsubmitted.isEmpty := by
    simpa using congrArg List.isEmpty left
  rw [done]
  split
  · have collected := ((after.collected sent.scope sent.inbox sent.outcome).symm.collected
      went.scope went.inbox went.outcome).symm
    rcases first : Yard.collect sent.scope sent.inbox yard sent.outcome with ⟨outcome, yard⟩
    rcases second : Yard.collect went.scope went.inbox other went.outcome with ⟨result, other⟩
    rw [first, second] at collected
    simp only at collected ⊢
    rw [collected.isUnmanned id]
    split
    · exact collected.finish id sent went outcome result
    · refine collected.awaitBatch id ?_
      simp only [batch, Batch.mk.injEq] at looks ⊢
      simp [looks]
  · exact after.awaitBatch id looks

theorem beginBatch (id : CallId) (scope : ScopeId) (timeout : Duration)
    {entries items : List (Entry Body)}
    (listed : entries.map veil.entry = items.map veil.entry) :
    veil.Agrees (yard.beginBatch id scope timeout entries)
      (other.beginBatch id scope timeout items) := by
  have told := alike.ended? scope
  have tasks : (entries.map Entry.task).map veil.task = (items.map Entry.task).map veil.task := by
    have named := congrArg (List.map Entry.task) listed
    rw [List.map_map, List.map_map] at named
    rw [List.map_map, List.map_map]
    exact named
  unfold Yard.beginBatch
  cases ended : other.ended? scope with
  | some reason =>
    simp only [Yard.query_of_some ended, Yard.query_of_some (told.trans ended)]
    refine ⟨rfl, ?_⟩
    exact (alike.settled scope reason).unseen rfl rfl
  | none =>
    simp only [Yard.query_of_none ended, Yard.query_of_none (told.trans ended)]
    refine Alike.pollBatch ?_ id ?_
    · exact alike.unseen rfl rfl
    · simp only [batch, alike.now, tasks, listed, List.map_nil]

/-! ### Any call -/

theorem pollDrain (id : CallId) (timeout : Duration) (deadline : Option Duration) :
    veil.Agrees (yard.pollDrain id timeout deadline) (other.pollDrain id timeout deadline) := by
  have idle : yard.jobs.isEmpty = other.jobs.isEmpty := by
    simpa using congrArg List.isEmpty alike.jobs
  unfold Yard.pollDrain Yard.hasPassed
  rw [idle, alike.now]
  split
  · exact ⟨rfl, alike.drop id⟩
  · split
    · exact ⟨rfl, alike.drop id⟩
    · exact ⟨rfl, alike.keep rfl⟩

theorem pollWatch (id : CallId) (scope : ScopeId) :
    veil.Agrees (yard.pollWatch id scope) (other.pollWatch id scope) := by
  have told := alike.ended? scope
  unfold Yard.pollWatch
  cases ended : other.ended? scope with
  | some reason =>
    simp only [Yard.query_of_some ended, Yard.query_of_some (told.trans ended)]
    exact ⟨rfl, (alike.settled scope reason).drop id⟩
  | none =>
    simp only [Yard.query_of_none ended, Yard.query_of_none (told.trans ended)]
    exact ⟨rfl, alike.keep rfl⟩

theorem poll (unmasked : veil.masked ≠ some id) : veil.Agrees (yard.poll id) (other.poll id) := by
  unfold Yard.poll
  rcases both_or_none (alike.get?_calls id) with
    ⟨absent, missing⟩ | ⟨held, kept, found, there, same⟩
  · rw [absent, missing]
    exact ⟨rfl, alike⟩
  · rw [call_of_unmasked unmasked, call_of_unmasked unmasked] at same
    rw [found, there]
    cases held with
    | submit body =>
      cases kept <;> cases same
      exact alike.pollSubmit id body true
    | soloQueued scope body =>
      cases kept <;> cases same
      exact alike.pollSoloQueued id scope body true
    | solo scope reply =>
      cases kept with
      | solo under answer =>
        simp only [bare, Call.solo.injEq] at same
        obtain ⟨rfl, replies⟩ := same
        exact alike.pollSolo id scope replies
      | _ => cases same
    | batch batch =>
      cases kept with
      | batch other => exact alike.pollBatch id (Call.batch.inj same)
      | _ => cases same
    | drain timeout deadline =>
      cases kept <;> cases same
      exact alike.pollDrain id timeout deadline
    | watch scope =>
      cases kept <;> cases same
      exact alike.pollWatch id scope

theorem closeSlots : veil.Alike yard.closeSlots other.closeSlots := by
  have closed : veil.Alike { yard with slots := yard.slots.close }
      { other with slots := other.slots.close } :=
    { alike with slots := congrArg Slots.close alike.slots }
  exact closed.unseen rfl rfl

theorem prepared (request : Request Body) :
    veil.Alike (yard.prepared request) (other.prepared request) := by
  have counted : veil.Alike { yard with callCount := yard.callCount + 1 }
      { other with callCount := other.callCount + 1 } :=
    { alike with callCount := congrArg Nat.succ alike.callCount }
  cases request with
  | exec scope =>
    exact { counted with
      backlog := by
        simp only [Yard.prepared, Backlog.remove, Listing.seen_remove, alike.backlog] }
  | drain timeout => exact counted.closeSlots
  | _ => exact counted

/-- Beginning an operation looks alike, if a batch gets the same timeout. -/
theorem begin (request : Request Body)
    (timed : ∀ scope, request = .exec scope → yard.timeout = other.timeout) :
    veil.Agrees (yard.begin request).2 (other.begin request).2 := by
  have prepared := alike.prepared request
  have id : (⟨yard.callCount⟩ : CallId) = ⟨other.callCount⟩ := by rw [alike.callCount]
  cases request with
  | submit body =>
    show veil.Agrees ((yard.prepared (.submit body)).pollSubmit ⟨yard.callCount⟩ body false)
      ((other.prepared (.submit body)).pollSubmit ⟨other.callCount⟩ body false)
    rw [id]
    exact prepared.pollSubmit _ body false
  | submitTask scope body =>
    have told := alike.ended? scope
    cases ended : other.ended? scope with
    | some reason =>
      rw [Yard.begin_submitTask_of_ended ended, Yard.begin_submitTask_of_ended (told.trans ended)]
      exact ⟨rfl, prepared.settled scope reason⟩
    | none =>
      rw [Yard.begin_submitTask_of_going ended, Yard.begin_submitTask_of_going (told.trans ended),
        id]
      exact prepared.pollSoloQueued _ scope body false
  | exec scope =>
    rcases both_or_none (alike.get?_batches scope) with
      ⟨absent, missing⟩ | ⟨entries, items, found, there, same⟩
    · rw [Yard.begin_exec_of_absent absent, Yard.begin_exec_of_absent missing]
      refine ⟨rfl, ?_⟩
      exact prepared.unseen rfl rfl
    · rw [Yard.begin_exec found, Yard.begin_exec there, id, timed scope rfl]
      exact prepared.beginBatch _ scope _ same
  | drain timeout =>
    show veil.Agrees
      ((yard.prepared (.drain timeout)).pollDrain ⟨yard.callCount⟩ timeout
        (yard.now.after? timeout))
      ((other.prepared (.drain timeout)).pollDrain ⟨other.callCount⟩ timeout
        (other.now.after? timeout))
    rw [id, alike.now]
    exact prepared.pollDrain _ timeout _
  | watch scope =>
    show veil.Agrees ((yard.prepared (.watch scope)).pollWatch ⟨yard.callCount⟩ scope)
      ((other.prepared (.watch scope)).pollWatch ⟨other.callCount⟩ scope)
    rw [id]
    exact prepared.pollWatch _ scope

end Alike

end Veil

end Taskyard

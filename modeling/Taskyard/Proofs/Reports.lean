/-
This file says that everybody is told the same of the end of a scope. There are
many ways to be told: somebody asks, or waits for the end; a push is refused; a
body that was to run under the scope is not run, or not waited for; a batch has
entries that name the reason. Several yards may share the clock and the scopes,
and what is done in one of them may end a scope that the others use.

All who are told look, in the end, at what was written down, and what is written
down first stays. Only one place is not looked up again: what came in for a batch
from bodies that were dropped. It was written down when they were dropped.
-/

import Taskyard.Proofs.Cancellation
import Taskyard.Proofs.EndReasons
import Taskyard.Proofs.Waking

namespace Taskyard

variable {Body : Type}

/-! ### What is told -/

/-- The reasons for which the tasks of an outcome have no value because a scope has ended. -/
def Outcome.reasons (outcome : Outcome) : List EndReason :=
  outcome.errors.filterMap fun entry => entry.2.bind TaskError.endReason?

/-- The reasons of an end that a reply names. -/
def Reply.reasons : Reply → List EndReason
  | .completed (.error error) => error.endReason?.toList
  | .executed (some outcome) => outcome.reasons
  | .ended reason => [reason]
  | .submitted _ | .completed (.ok _) | .executed none | .drained _ => []

/-- What the answer to a call says of the end of the scope that the call is under. -/
def Concern.tidings (concern : Option Concern) (answer : Option Reply) :
    List (ScopeId × EndReason) :=
  match concern.bind Concern.scope?, answer with
  | some scope, some reply => reply.reasons.map (scope, ·)
  | _, _ => []

/-- The scopes that somebody hears the end of in an event, each with the reason that is given. -/
def Yard.telling (yard : Yard Body) : Event Body → List (ScopeId × EndReason)
  | .query scope => (yard.query scope).1.toList.map (scope, ·)
  | .push scope label body =>
    match (yard.push scope label body).1 with
    | .error (.scope reason) => [(scope, reason)]
    | _ => []
  | .begin request => Concern.tidings (yard.concern? request) (yard.begin request).2.1
  | .poll id => Concern.tidings ((yard.calls.get? id).map Call.concern) (yard.poll id).1
  | .tick _ | .openScope _ | .cancel _ | .discard _ | .setTimeout _ | .release | .drop _
  | .start _ | .finish _ _ | .abandon _ => []

theorem mem_tidings {concern : Option Concern} {answer : Option Reply} {scope : ScopeId}
    {reason : EndReason} (told : (scope, reason) ∈ Concern.tidings concern answer) :
    concern.bind Concern.scope? = some scope ∧
      ∃ reply, answer = some reply ∧ reason ∈ reply.reasons := by
  unfold Concern.tidings at told
  split at told
  · next under known =>
    obtain ⟨_, named, same⟩ := List.mem_map.mp told
    cases same
    exact ⟨known, _, rfl, named⟩
  · cases told

namespace Outcome

theorem mem_reasons {outcome : Outcome} {reason : EndReason} :
    reason ∈ outcome.reasons ↔ ∃ task, (task, some (.scope reason)) ∈ outcome.errors := by
  unfold reasons
  rw [List.mem_filterMap]
  constructor
  · rintro ⟨⟨task, entry⟩, listed, named⟩
    obtain ⟨error, rfl, same⟩ := Option.bind_eq_some_iff.mp named
    cases error <;> cases same
    exact ⟨task, listed⟩
  · rintro ⟨task, listed⟩
    exact ⟨_, listed, rfl⟩

theorem reasons_failAll {tasks : List TaskId} {error : TaskError} {reason : EndReason}
    (named : reason ∈ (failAll tasks error).reasons) : error = .scope reason := by
  obtain ⟨task, listed⟩ := mem_reasons.mp named
  obtain ⟨_, -, same⟩ := List.mem_map.mp listed
  exact Option.some.inj (congrArg Prod.snd same)

theorem reason_of_failAll {tasks : List TaskId} {reason other : EndReason}
    (named : other ∈ (failAll tasks (.scope reason)).reasons) : other = reason := by
  cases reasons_failAll named
  rfl

/-- What an outcome says after outputs were recorded it said before, or one of the outputs does. -/
theorem mem_errors_recordAll {outcome : Outcome} {outputs : List (TaskId × Output)}
    {entry : TaskId × Option TaskError} (listed : entry ∈ (outcome.recordAll outputs).errors) :
    entry ∈ outcome.errors ∨ ∃ output ∈ outputs, entry = (output.1, entryOf output.2) := by
  induction outputs generalizing outcome with
  | nil => exact .inl listed
  | cons output rest inductionHypothesis =>
    have behind : entry ∈ ((outcome.record output.1 output.2).recordAll rest).errors := listed
    rcases inductionHypothesis behind with known | ⟨other, member, same⟩
    · rw [errors_record] at known
      rcases Listing.mem_put known with before | new
      · exact .inl before
      · exact .inr ⟨output, List.mem_cons_self, new⟩
    · exact .inr ⟨other, List.mem_cons_of_mem _ member, same⟩

end Outcome

namespace Yard

variable {yard : Yard Body} {id : CallId} {scope : ScopeId}

/-! ### What is told was written down -/

/-- Whatever reason the answer of a poll gives for the end of a scope is written down. -/
def Vouches (scope : ScopeId) (result : Option Reply × Yard Body) : Prop :=
  ∀ reply, result.1 = some reply → ∀ reason ∈ reply.reasons,
    result.2.scopes.written? scope = some reason

theorem Vouches.of_none {result : Option Reply × Yard Body} (unanswered : result.1 = none) :
    Vouches scope result := fun reply answered => by
  rw [unanswered] at answered
  cases answered

/-- An answer that gives the reason that has just been found vouches for it. -/
theorem Vouches.of_ended {reason : EndReason} {reply : Reply} {later : Yard Body}
    (ended : yard.ended? scope = some reason)
    (names : ∀ other ∈ reply.reasons, other = reason)
    (settled : later.scopes = yard.scopes.settle scope reason) :
    Vouches scope (some reply, later) := by
  rintro _ ⟨⟩ other named
  rw [names other named, settled]
  exact Scopes.written?_settle_of_ended ended

theorem vouches_pollWatch (yard : Yard Body) (id : CallId) (scope : ScopeId) :
    Vouches scope (yard.pollWatch id scope) := by
  unfold pollWatch
  cases ended : yard.ended? scope with
  | none =>
    rw [query_of_none ended]
    exact .of_none rfl
  | some reason =>
    rw [query_of_some ended]
    exact .of_ended ended (fun _ named => List.mem_singleton.mp named) rfl

theorem vouches_pollSolo {reply : Option Output}
    (discreet : ∀ error, reply = some (.error error) → error.endReason? = none) :
    Vouches scope (yard.pollSolo id scope reply) := by
  unfold pollSolo
  cases reply with
  | some output =>
    rintro _ ⟨⟩ reason named
    cases output with
    | ok value => cases named
    | error error => simp [Reply.reasons, discreet error rfl] at named
  | none =>
    cases ended : yard.ended? scope with
    | none =>
      rw [query_of_none ended]
      exact .of_none rfl
    | some reason =>
      rw [query_of_some ended]
      exact .of_ended ended (fun _ named => List.mem_singleton.mp named) rfl

theorem vouches_pollSoloQueued (yard : Yard Body) (id : CallId) (scope : ScopeId) (body : Body)
    (queued : Bool) : Vouches scope (yard.pollSoloQueued id scope body queued) := by
  unfold pollSoloQueued
  rcases yard.slots.turn id queued with ⟨turn, slots⟩
  cases turn with
  | admitted => exact vouches_pollSolo fun error none => by cases none
  | refused error =>
    rintro _ ⟨⟩ reason named
    cases named
  | queued =>
    simp only
    cases ended : ended? { yard with slots := slots } scope with
    | none =>
      rw [query_of_none ended]
      exact .of_none rfl
    | some reason =>
      rw [query_of_some ended]
      exact .of_ended ended (fun _ named => List.mem_singleton.mp named) rfl

/-- A batch that cannot go on names the end of its scope only if that is why. -/
theorem vouches_awaitBatch (yard : Yard Body) (id : CallId) (batch : Batch Body) :
    Vouches batch.scope (yard.awaitBatch id batch) := by
  unfold awaitBatch
  split
  · rintro _ ⟨⟩ reason named
    cases Outcome.reasons_failAll named
  · cases ended : yard.ended? batch.scope with
    | none =>
      rw [query_of_none ended]
      exact .of_none rfl
    | some reason =>
      rw [query_of_some ended]
      exact .of_ended ended (fun _ named => Outcome.reason_of_failAll named) rfl

theorem vouches_pollBatch {before : Yard Body} {batch : Batch Body}
    (dealt : before.Dealt id batch yard) (notices : batch.Notices yard.scopes) :
    Vouches batch.scope (yard.pollBatch id batch) := by
  rcases pollBatch_cases yard id batch with ⟨-, answer⟩ | ⟨-, journal, goesOn⟩
  · intro reply answered reason named
    rw [answer] at answered
    cases answered
    obtain ⟨task, listed⟩ := Outcome.mem_reasons.mp named
    rw [inbox_submitted] at listed
    -- Nothing that the batch knew before names an end, so that one of the outputs does.
    rcases Outcome.mem_errors_recordAll listed with known | ⟨output, came, same⟩
    · exact absurd rfl (dispatch_clear notices.clear _ known reason)
    · have said := Outcome.entryOf_eq_some_iff.mp (congrArg Prod.snd same).symm
      have written := notices.written output.1 reason (said ▸ came)
      have restart : yard.Dealt id batch yard :=
        ⟨.start dealt.dealing.inOrder, dealt.waits, dealt.fits⟩
      exact (Scopes.Evolves.asked restart.pollBatch.scopes).written written
  · have same : (yard.submitted id batch).1.looked.scope = batch.scope := by
      obtain ⟨_, _, _, same⟩ :=
        dispatch_batch id batch batch.queued batch.unsubmitted yard batch.outcome
      rw [Batch.scope_looked, submitted, same]
    rw [goesOn, ← same]
    exact vouches_awaitBatch _ id _

/-! ### What bodies say of themselves -/

/-- No body says by itself that a scope has ended. -/
def Discreet (yard : Yard Body) : Prop :=
  ∀ id scope error, yard.calls.get? id = some (.solo scope (some (.error error))) →
    error.endReason? = none

theorem Discreet.of_calls {other : Yard Body} (discreet : yard.Discreet)
    (calls : ∀ id call, other.calls.get? id = some call → yard.calls.get? id = some call) :
    other.Discreet :=
  fun id scope error found => discreet id scope error (calls id _ found)

/-- A call that is told to wait has heard nothing yet. -/
theorem Polled.discreet {concern : Concern} {before : Yard Body}
    {result : Option Reply × Yard Body} (polled : Polled id concern before result)
    (discreet : before.Discreet) : result.2.Discreet := by
  intro other scope error found
  by_cases own : other = id
  · subst own
    have content := (polled.waits found).2.2
    simp [wouldProgress] at content
  · rw [polled.others other own] at found
    exact discreet other scope error found

/-- What a call knows of its one body it knew before, or it has just heard it of a body that ran for
a call of that kind. -/
theorem hear_eq_solo {call : Call Body} {purpose : Purpose} {output reply : Output}
    (heard : call.hear purpose output = .solo scope (some reply)) :
    call = .solo scope (some reply) ∨ (∃ id, purpose = .solo id) ∧ reply = output := by
  cases purpose with
  | errand => exact .inl heard
  | solo id =>
    cases call with
    | solo under former =>
      cases former with
      | some former => exact .inl heard
      | none =>
        cases heard
        exact .inr ⟨⟨id, rfl⟩, rfl⟩
    | _ => cases heard
  | member id task under =>
    cases call with
    | batch held => cases heard
    | _ => exact .inl heard

theorem Discreet.retire {job : Job Body} {output : Output} (discreet : yard.Discreet)
    (inOrder : yard.InOrder) (member : job ∈ yard.jobs)
    (alone : ∀ id, job.purpose = .solo id → ∀ error, output = .error error →
      error.endReason? = none) : (yard.retire job output).Discreet := by
  intro id scope error found
  rw [(inOrder.retire member output).calls id] at found
  by_cases patron : job.purpose.patron? = some id
  · rw [if_pos patron] at found
    obtain ⟨call, former, heard⟩ := Option.map_eq_some_iff.mp found
    rcases hear_eq_solo heard with rfl | ⟨⟨own, purpose⟩, same⟩
    · exact discreet id scope error former
    · exact alone own purpose error same.symm
  · rw [if_neg patron] at found
    exact discreet id scope error found

theorem Discreet.step (discreet : yard.Discreet) (kept : yard.Kept) (event : Event Body) :
    (yard.step event).Discreet := by
  cases event with
  | begin request =>
    have prepared : (yard.prepared request).Discreet :=
      discreet.of_calls fun id call found => by rwa [calls_prepared] at found
    cases concern : yard.concern? request with
    | some concern => exact (kept.inOrder.begin kept.stocked concern).discreet prepared
    | none =>
      obtain ⟨scope, rfl, answered⟩ := begin_of_none concern
      rw [Yard.step, answered]
      exact prepared
  | poll id =>
    cases found : yard.calls.get? id with
    | none => rwa [Yard.step, poll_of_absent found]
    | some call => exact (kept.inOrder.poll found).discreet discreet
  | finish job ending =>
    rcases finishJob_cases yard job ending with
      same | ⟨running, member, -, -, journal, reported, retired⟩
    · rwa [Yard.step, same]
    · have unmoved : { yard with journal := journal, reported := reported }.InOrder :=
        kept.inOrder.of_floor rfl
      rw [Yard.step, retired]
      refine Discreet.retire discreet unmoved member fun _ purpose error same => ?_
      rw [purpose] at same
      cases ending <;> cases same <;> rfl
  | abandon job =>
    rcases abandonJob_cases yard job with
      same | ⟨running, member, -, call, task, scope, reason, purpose, ended, retired⟩
    · rwa [Yard.step, same]
    · have unmoved : { yard with scopes := yard.scopes.settle scope reason }.InOrder :=
        kept.inOrder.of_floor rfl
      rw [Yard.step, retired]
      refine Discreet.retire discreet unmoved member fun _ alone => ?_
      rw [purpose] at alone
      cases alone
  | push scope label body =>
    obtain ⟨scopes, backlog, taskCount, journal, -, pushed⟩ := push_eq yard scope label body
    rw [Yard.step, pushed]
    exact discreet
  | tick moment =>
    obtain ⟨now, -, moved⟩ := advanceTo_eq yard moment
    rw [Yard.step, moved]
    exact discreet
  | drop other =>
    refine discreet.of_calls fun id call found => ?_
    simp only [Yard.step, drop, Listing.get?_remove] at found
    split at found
    · cases found
    · exact found
  | openScope | cancel | query | discard | setTimeout | release | start => exact discreet

/-! ### Yards that tell what was written down -/

/-- A yard in which nobody is told of an end but what was written down. -/
structure Candid (yard : Yard Body) : Prop where
  kept : yard.Kept
  noticed : yard.Noticed
  discreet : yard.Discreet

theorem Candid.step (candid : yard.Candid) (event : Event Body) : (yard.step event).Candid :=
  ⟨candid.kept.step event, candid.noticed.step candid.kept event,
    candid.discreet.step candid.kept event⟩

/-- A yard stays so while something happens to the scopes elsewhere. -/
theorem Candid.evolve {moment : Duration} {scopes : Scopes} (candid : yard.Candid)
    (evolves : Scopes.Evolves moment yard.scopes scopes) (now : Duration) :
    { yard with now := now, scopes := scopes }.Candid where
  kept := ⟨candid.kept.inOrder.of_floor rfl, candid.kept.stocked.of_same rfl rfl⟩
  noticed := candid.noticed.of_calls (fun _ _ found => found) evolves
  discreet := candid.discreet

theorem candid_openNoted? {options : Options} {start : Yard Body}
    (opened : openNoted? options = .ok start) (now : Duration) (scopes : Scopes) :
    { start with now := now, scopes := scopes }.Candid := by
  obtain ⟨kept, -⟩ := kept_openNoted? opened
  refine ⟨⟨kept.inOrder.of_floor rfl, kept.stocked.of_same rfl rfl⟩, ?_, ?_⟩ <;>
    obtain ⟨slots, -, rfl⟩ := openNoted?_eq opened
  · intro id batch found
    cases found
  · intro id scope error found
    cases found

/-- A batch that begins tells of no end but what is written down. -/
theorem Candid.vouches_exec (candid : yard.Candid) {entries : List (Entry Body)}
    (batch : yard.backlog.batches.get? scope = some entries) :
    Vouches scope (yard.begin (.exec scope)).2 := by
  obtain ⟨outside, unstaffed, -⟩ := candid.kept.inOrder.fresh
  rw [begin_exec batch]
  rcases beginBatch_cases (yard.prepared (.exec scope)) ⟨yard.callCount⟩ scope yard.timeout
    entries with ⟨reason, note, ended, failed⟩ | ⟨note, begun⟩
  · rw [failed]
    exact .of_ended ended (fun _ named => Outcome.reason_of_failAll named) rfl
  · rw [begun]
    have dealing := (Dealing.start (candid.kept.inOrder.prepare (.exec scope))).noted note
    exact vouches_pollBatch (dealing.taken outside unstaffed
      (candid.kept.stocked.distinct_of_get? batch) scope yard.timeout _) notices_taken

theorem Candid.vouches_begin (candid : yard.Candid) {request : Request Body} {concern : Concern}
    (requested : yard.concern? request = some concern) (under : concern.scope? = some scope) :
    Vouches scope (yard.begin request).2 := by
  cases request with
  | submit body =>
    cases requested
    cases under
  | submitTask other body =>
    cases requested
    cases under
    cases ended : yard.ended? scope with
    | none =>
      rw [begin_submitTask_of_going ended]
      exact vouches_pollSoloQueued _ _ scope body false
    | some reason =>
      rw [begin_submitTask_of_ended ended]
      exact .of_ended ended (fun _ named => List.mem_singleton.mp named) rfl
  | exec other =>
    obtain ⟨entries, batch, rfl⟩ := Option.map_eq_some_iff.mp requested
    cases under
    exact candid.vouches_exec batch
  | drain timeout =>
    cases requested
    cases under
  | watch other =>
    cases requested
    cases under
    exact vouches_pollWatch _ _ scope

theorem Candid.vouches_poll (candid : yard.Candid) {call : Call Body}
    (found : yard.calls.get? id = some call) (under : call.concern.scope? = some scope) :
    Vouches scope (yard.poll id) := by
  rw [Yard.poll, found]
  cases call with
  | submit body => cases under
  | soloQueued other body =>
    cases under
    exact vouches_pollSoloQueued yard id scope body true
  | solo other reply =>
    cases under
    exact vouches_pollSolo fun error same => candid.discreet id scope error (same ▸ found)
  | batch held =>
    cases under
    obtain ⟨dealing, waits, fits⟩ := candid.kept.inOrder.underWay found
    exact vouches_pollBatch ⟨dealing, waits, fits.1⟩ (candid.noticed id held found)
  | drain timeout deadline => cases under
  | watch other =>
    cases under
    exact vouches_pollWatch yard id scope

/-- Whoever is told of an end in an event is told what is written down afterwards. -/
theorem Candid.written_of_telling (candid : yard.Candid) {event : Event Body} {reason : EndReason}
    (told : (scope, reason) ∈ yard.telling event) :
    (yard.step event).scopes.written? scope = some reason := by
  cases event with
  | query other =>
    obtain ⟨_, heard, same⟩ := List.mem_map.mp told
    cases same
    have ended : yard.ended? scope = some reason := by
      cases known : yard.ended? scope with
      | none =>
        rw [query_of_none known] at heard
        cases heard
      | some written =>
        rw [query_of_some known] at heard
        exact congrArg some (List.mem_singleton.mp heard).symm
    rw [Yard.step, query_of_some ended]
    exact Scopes.written?_settle_of_ended ended
  | push other label body =>
    simp only [telling] at told
    cases ended : yard.ended? other with
    | none =>
      by_cases closed : yard.slots.closed = true
      · simp [push_of_closed ended closed] at told
      · simp [push_of_open ended closed] at told
    | some written =>
      rw [push_of_ended ended] at told
      cases List.mem_singleton.mp told
      rw [Yard.step, push_of_ended ended]
      exact Scopes.written?_settle_of_ended ended
  | begin request =>
    obtain ⟨under, reply, answered, named⟩ := mem_tidings told
    obtain ⟨concern, requested, under⟩ := Option.bind_eq_some_iff.mp under
    exact candid.vouches_begin requested under reply answered reason named
  | poll id =>
    obtain ⟨under, reply, answered, named⟩ := mem_tidings told
    obtain ⟨concern, held, under⟩ := Option.bind_eq_some_iff.mp under
    obtain ⟨call, found, rfl⟩ := Option.map_eq_some_iff.mp held
    exact candid.vouches_poll found under reply answered reason named
  | _ => cases told

end Yard

/-! ### Several yards -/

/-- Several yards that share the clock and the scopes. -/
structure Premises (Body : Type) where
  now : Duration
  scopes : Scopes
  yards : List (Yard Body)

/-- Something that happens in the premises: a yard is opened, or an event happens in one of them. -/
inductive Happening (Body : Type) where
  | opens (options : Options)
  | within (place : Nat) (event : Event Body)

namespace Premises

/-- The premises before anything has happened. -/
def empty : Premises Body := ⟨.zero, .empty, []⟩

/-- A yard as it is at work, with the clock and the scopes of the premises. -/
def lend (premises : Premises Body) (yard : Yard Body) : Yard Body :=
  { yard with now := premises.now, scopes := premises.scopes }

/-- The yard at a place. -/
def yard? (premises : Premises Body) (place : Nat) : Option (Yard Body) :=
  premises.yards[place]?.map premises.lend

def step (premises : Premises Body) : Happening Body → Premises Body
  | .opens options =>
    match Yard.openNoted? options with
    | .ok yard => { premises with yards := premises.yards ++ [yard] }
    | .error _ => premises
  | .within place event =>
    match premises.yard? place with
    | some yard =>
      ⟨(yard.step event).now, (yard.step event).scopes,
        premises.yards.set place (yard.step event)⟩
    | none => premises

/-- The premises after all that has happened. -/
def after (history : List (Happening Body)) : Premises Body := history.foldl step empty

/-- The scopes that somebody hears the end of, each with the reason that is given. -/
def telling (premises : Premises Body) : Happening Body → List (ScopeId × EndReason)
  | .opens _ => []
  | .within place event => (premises.yard? place).elim [] fun yard => yard.telling event

/-- Why a scope has ended, if it has. -/
def ended? (premises : Premises Body) (scope : ScopeId) : Option EndReason :=
  premises.scopes.ended? premises.now scope

/-- What waiting for the end of a scope comes to. Whoever waits is woken when the scope is cancelled
and, if it has a deadline, when the timer goes off that was set to it; asks then why the scope has
ended; and takes it that it was cancelled if nobody can say. -/
def awaitEnd (premises : Premises Body) (scope : ScopeId) (timer : Bool) : Option EndReason :=
  let woken := match premises.scopes.deadline? scope with
    | some _ => premises.scopes.isCancelled scope || timer
    | none => premises.scopes.isCancelled scope
  if woken then some ((premises.scopes.query premises.now scope).1.getD .cancelled) else none

theorem after_concat (history : List (Happening Body)) (happening : Happening Body) :
    after (history ++ [happening]) = (after history).step happening := by
  rw [after, List.foldl_append]
  rfl

variable {premises : Premises Body} {scope : ScopeId}

/-- What can be relied on of the premises. -/
structure Sound (premises : Premises Body) : Prop where
  candid : ∀ yard ∈ premises.yards, (premises.lend yard).Candid
  honest : premises.scopes.Honest premises.now

/-- What the premises may come to. -/
structure Follows (before later : Premises Body) : Prop where
  now : before.now ≤ later.now
  evolves : Scopes.Evolves before.now before.scopes later.scopes

theorem Sound.candid_of_yard? (sound : premises.Sound) {place : Nat} {yard : Yard Body}
    (found : premises.yard? place = some yard) : yard.Candid := by
  obtain ⟨held, listed, rfl⟩ := Option.map_eq_some_iff.mp found
  exact sound.candid held (List.mem_of_getElem? listed)

/-- A yard that is at work has the clock and the scopes of the premises. -/
theorem shared_of_yard? {place : Nat} {yard : Yard Body}
    (found : premises.yard? place = some yard) :
    yard.now = premises.now ∧ yard.scopes = premises.scopes := by
  obtain ⟨held, -, rfl⟩ := Option.map_eq_some_iff.mp found
  exact ⟨rfl, rfl⟩

theorem Sound.follows (sound : premises.Sound) (happening : Happening Body) :
    premises.Follows (premises.step happening) := by
  have still : premises.Follows premises := ⟨Nat.le_refl _, .asked .nothing⟩
  cases happening with
  | opens options =>
    cases opened : (Yard.openNoted? options : Except PoolError (Yard Body)) with
    | ok yard =>
      simp only [step, opened]
      exact ⟨Nat.le_refl _, .asked .nothing⟩
    | error error => simpa only [step, opened] using still
  | within place event =>
    cases found : premises.yard? place with
    | some yard =>
      obtain ⟨now, scopes⟩ := shared_of_yard? found
      have kept := (sound.candid_of_yard? found).kept
      simp only [step, found]
      exact ⟨now ▸ (kept.now_step event).1, scopes ▸ now ▸ kept.evolves event⟩
    | none => simpa only [step, found] using still

theorem Sound.step (sound : premises.Sound) (happening : Happening Body) :
    (premises.step happening).Sound := by
  have follows := sound.follows happening
  refine ⟨?_, (sound.honest.evolve follows.evolves).later follows.now⟩
  cases happening with
  | opens options =>
    cases opened : (Yard.openNoted? options : Except PoolError (Yard Body)) with
    | ok yard =>
      simp only [Premises.step, opened]
      intro other member
      rcases List.mem_append.mp member with before | new
      · exact sound.candid other before
      · rw [List.mem_singleton.mp new]
        exact Yard.candid_openNoted? opened premises.now premises.scopes
    | error error => simpa only [Premises.step, opened] using sound.candid
  | within place event =>
    cases found : premises.yard? place with
    | some yard =>
      simp only [Premises.step, found] at follows ⊢
      intro other member
      rcases List.mem_or_eq_of_mem_set member with before | rfl
      · exact (sound.candid other before).evolve follows.evolves _
      · exact (sound.candid_of_yard? found).step event
    | none => simpa only [Premises.step, found] using sound.candid

theorem sound_after (history : List (Happening Body)) : (after history).Sound := by
  induction history using List.reverseRecOn with
  | nil => exact ⟨List.forall_mem_nil _, fun _ _ none => by cases none⟩
  | append_singleton earlier happening inductionHypothesis =>
    rw [after_concat]
    exact inductionHypothesis.step happening

/-- What nothing that happens undoes of the scopes lasts. -/
theorem lasts (property : Scopes → Prop)
    (kept : ∀ {now before later}, Scopes.Evolves now before later →
      property before → property later) {history : List (Happening Body)}
    (holds : property (after history).scopes) (later : List (Happening Body)) :
    property (after (history ++ later)).scopes := by
  induction later using List.reverseRecOn with
  | nil => rwa [List.append_nil]
  | append_singleton rest happening inductionHypothesis =>
    rw [← List.append_assoc, after_concat]
    exact kept ((sound_after (history ++ rest)).follows happening).evolves inductionHypothesis

/-- What somebody was told is written down from then on. -/
theorem written_of_telling {history : List (Happening Body)} {happening : Happening Body}
    {reason : EndReason} (told : (scope, reason) ∈ (after history).telling happening)
    (later : List (Happening Body)) :
    (after (history ++ happening :: later)).scopes.written? scope = some reason := by
  have written : (after (history ++ [happening])).scopes.written? scope = some reason := by
    rw [after_concat]
    cases happening with
    | opens options => cases told
    | within place event =>
      cases found : (after history).yard? place with
      | none => simp [telling, found] at told
      | some yard =>
        simp only [telling, found, Option.elim_some] at told
        simp only [step, found]
        exact ((sound_after history).candid_of_yard? found).written_of_telling told
  rw [List.append_cons]
  exact lasts (fun scopes => scopes.written? scope = some reason) Scopes.Evolves.written written
    later

theorem ended_of_ended {history : List (Happening Body)}
    (ended : ((after history).ended? scope).isSome) (later : List (Happening Body)) :
    ((after (history ++ later)).ended? scope).isSome := by
  induction later using List.reverseRecOn with
  | nil => rwa [List.append_nil]
  | append_singleton rest happening inductionHypothesis =>
    rw [← List.append_assoc, after_concat]
    have sound := sound_after (history ++ rest)
    have follows := sound.follows happening
    exact follows.evolves.ended sound.honest follows.now inductionHypothesis

/-- A scope that is cancelled has ended at once. -/
theorem Sound.ended_cancel {place : Nat} {yard : Yard Body} (sound : premises.Sound)
    (found : premises.yard? place = some yard) (known : (premises.scopes.record? scope).isSome) :
    ((premises.step (.within place (.cancel scope))).ended? scope).isSome := by
  have honest := (sound.step (.within place (.cancel scope))).honest
  refine (honest.ended_iff scope).mpr (.inr ?_)
  obtain ⟨-, scopes⟩ := shared_of_yard? found
  simp only [Premises.step, found, Yard.step, Yard.cancel, scopes]
  refine Scopes.cancelledIn_cancel_self ?_
  rw [← Scopes.record?, Scopes.record?_settle, if_pos rfl, Option.isSome_map]
  exact known

/-- Whoever waits for the end of a scope is woken when the scope has ended, and not before. -/
theorem Sound.awaitEnd (sound : premises.Sound) {timer : Bool}
    (early : timer = true → premises.scopes.isOverdue premises.now scope = true)
    {reason : EndReason} (woken : premises.awaitEnd scope timer = some reason) :
    premises.ended? scope = some reason := by
  have ends : (premises.ended? scope).isSome := by
    refine (sound.honest.ended_iff scope).mpr ?_
    by_contra going
    obtain ⟨onTime, uncancelled⟩ := not_or.mp going
    have unset : timer = false := Bool.eq_false_iff.mpr fun off => onTime (early off)
    have uncancelled := Bool.eq_false_iff.mpr uncancelled
    unfold Premises.awaitEnd at woken
    cases limit : premises.scopes.deadline? scope <;> simp [limit, uncancelled, unset] at woken
  obtain ⟨said, known⟩ := Option.isSome_iff_exists.mp ends
  simp only [Premises.awaitEnd, Scopes.query_of_some known, Option.getD_some,
    Option.ite_none_right_eq_some, Option.some.injEq] at woken
  rw [known, woken.2]

/-- If timers go off on time, waiting for the end of a scope is asking for it. -/
theorem Sound.awaitEnd_eq (sound : premises.Sound) (scope : ScopeId) :
    premises.awaitEnd scope (premises.scopes.isOverdue premises.now scope) =
      premises.ended? scope := by
  cases known : premises.ended? scope with
  | none =>
    rw [← Option.not_isSome_iff_eq_none]
    intro woken
    obtain ⟨reason, answer⟩ := Option.isSome_iff_exists.mp woken
    have ended := sound.awaitEnd id answer
    rw [known] at ended
    cases ended
  | some reason =>
    have ends := (sound.honest.ended_iff scope).mp (by rw [← Premises.ended?, known]; rfl)
    have woken : (premises.awaitEnd scope
        (premises.scopes.isOverdue premises.now scope)).isSome := by
      unfold Premises.awaitEnd
      cases limit : premises.scopes.deadline? scope with
      | none =>
        have cancelled := ends.resolve_left (by simp [Scopes.isOverdue, limit])
        simp [cancelled]
      | some moment => rcases ends with overdue | cancelled <;> simp [*]
    obtain ⟨said, answer⟩ := Option.isSome_iff_exists.mp woken
    have ended := sound.awaitEnd id answer
    rw [known] at ended
    rw [answer, ended]

/-! ### Everybody is told the same -/

/-- Whether somebody was told in the course of a history why a scope has ended. -/
def WasTold (history : List (Happening Body)) (scope : ScopeId) (reason : EndReason) : Prop :=
  ∃ earlier happening later, history = earlier ++ happening :: later ∧
    (scope, reason) ∈ (after earlier).telling happening

theorem written_of_wasTold {history : List (Happening Body)} {reason : EndReason}
    (told : WasTold history scope reason) :
    (after history).scopes.written? scope = some reason := by
  obtain ⟨earlier, happening, later, rfl, told⟩ := told
  exact written_of_telling told later

/-- What can be relied on of the ends of scopes after a history. -/
structure TellsOneEnd (history : List (Happening Body)) : Prop where
  /-- What somebody was told is what everybody hears from then on. -/
  stands : ∀ scope reason, WasTold history scope reason →
    (after history).ended? scope = some reason
  /-- Nobody was told anything else. -/
  agrees : ∀ scope first second, WasTold history scope first → WasTold history scope second →
    first = second
  /-- A scope that had ended has ended still. -/
  lasts : ∀ earlier later scope, history = earlier ++ later →
    ((after earlier).ended? scope).isSome → ((after history).ended? scope).isSome
  /-- A scope that was cancelled has ended, from then on. -/
  cancelled : ∀ earlier place scope later,
    history = earlier ++ .within place (.cancel scope) :: later →
    ((after earlier).yard? place).isSome → ((after earlier).scopes.record? scope).isSome →
    ((after history).ended? scope).isSome
  /-- Whoever waits for the end of a scope is not woken before, and is told why it has ended;
  nobody has to take it that the scope was cancelled. -/
  awaits : ∀ scope timer reason,
    (timer = true → (after history).scopes.isOverdue (after history).now scope = true) →
    (after history).awaitEnd scope timer = some reason →
    ((after history).scopes.query (after history).now scope).1 = some reason
  /-- Calls that wait for the end of a scope wait like that. -/
  watches : ∀ place yard id scope, (after history).yard? place = some yard →
    (yard.pollWatch id scope).1 = ((after history).awaitEnd scope
      ((after history).scopes.isOverdue (after history).now scope)).map Reply.ended

/-- The end of a scope is told in one way only, whoever is told and however. -/
theorem tellsOneEnd (history : List (Happening Body)) : TellsOneEnd history where
  stands scope reason told := Scopes.ended?_of_written (written_of_wasTold told) _
  agrees scope first second one other :=
    Option.some.inj ((written_of_wasTold one).symm.trans (written_of_wasTold other))
  lasts earlier later scope split ended := by
    rw [split]
    exact ended_of_ended ended later
  cancelled earlier place scope later split opened known := by
    obtain ⟨yard, found⟩ := Option.isSome_iff_exists.mp opened
    have ended := (sound_after earlier).ended_cancel found known
    rw [← after_concat] at ended
    rw [split, List.append_cons]
    exact ended_of_ended ended later
  awaits scope timer reason early woken := by
    rw [Scopes.query_of_some ((sound_after history).awaitEnd early woken)]
  watches place yard id scope found := by
    obtain ⟨now, scopes⟩ := shared_of_yard? found
    have same : yard.ended? scope = (after history).ended? scope := by
      rw [Yard.ended?, now, scopes, Premises.ended?]
    rw [(sound_after history).awaitEnd_eq, ← same, Yard.pollWatch]
    cases known : yard.ended? scope with
    | none =>
      rw [Yard.query_of_none known]
      rfl
    | some reason =>
      rw [Yard.query_of_some known]
      rfl

/-- A batch waits in one yard under a scope with a deadline. In the other yard the scope above it is
cancelled and a push is refused. The batch is polled when the deadline has passed. -/
def neighbours : List (Happening Unit) :=
  [.opens (.ofCapacity 1), .opens (.ofCapacity 1), .within 0 (.openScope .root),
    .within 0 (.openScope (.childBefore ⟨1⟩ (.ofMillis 10))), .within 0 (.push ⟨2⟩ "task" ()),
    .within 0 (.begin (.exec ⟨2⟩)), .within 1 (.cancel ⟨1⟩), .within 1 (.push ⟨2⟩ "late" ()),
    .within 1 (.tick (.ofMillis 10)), .within 0 (.poll ⟨0⟩)]

/-- The batch is told what the push was told, though the deadline has passed. -/
theorem tellsOneEnd_neighbours : TellsOneEnd neighbours ∧
    WasTold neighbours ⟨2⟩ .cancelled ∧
    (after neighbours).scopes.isOverdue (after neighbours).now ⟨2⟩ = true ∧
    (⟨2⟩, .cancelled) ∈ (after (neighbours.take 9)).telling (.within 0 (.poll ⟨0⟩)) ∧
    (after neighbours).ended? ⟨2⟩ = some .cancelled := by
  have sound := tellsOneEnd neighbours
  have refused : WasTold neighbours ⟨2⟩ .cancelled :=
    ⟨neighbours.take 7, .within 1 (.push ⟨2⟩ "late" ()), neighbours.drop 8, rfl,
      List.mem_singleton_self _⟩
  exact ⟨sound, refused, rfl, List.mem_singleton_self _, sound.stands ⟨2⟩ .cancelled refused⟩

end Premises

end Taskyard

/-
This file follows a body that somebody wants to have run under a scope, from the
request to its end. Its call waits for a slot; then the body has one, starts and
ends, and its output reaches the call if the call is still there. The call may
go away on the way: before there is a slot the body goes with it, and afterwards
that makes no difference to the body. Nothing else that happens to the yard
moves a body on, in particular not the end of its scope.
-/

import Taskyard.Proofs.Chronicle
import Taskyard.Proofs.Order.Bystanders
import Taskyard.Proofs.Order.Placing
import Taskyard.Proofs.Starts

namespace Taskyard

variable {Body : Type}

namespace Yard

variable {yard : Yard Body} {id : CallId}

/-- The jobs that work for a call. -/
def crew (yard : Yard Body) (id : CallId) : List (Job Body) := yard.jobs.filter (worksFor id)

/-- The jobs of a call that a history starts. -/
def startsFor (yard : Yard Body) (id : CallId) (history : List (Event Body)) : List (Job Body) :=
  (yard.chronicle starting history).filter (worksFor id)

theorem startsFor_append (yard : Yard Body) (id : CallId) (first second : List (Event Body)) :
    yard.startsFor id (first ++ second) =
      yard.startsFor id first ++ (yard.after first).startsFor id second := by
  rw [startsFor, chronicle_append, List.filter_append, startsFor, startsFor]

/-! ### The jobs of a call -/

theorem isUnmanned_enlist (yard : Yard Body) (call : CallId) (body : Body) :
    (yard.enlist (.solo call) body).isUnmanned call = false := by
  simp [isUnmanned, enlist, worksFor]

/-- A call that has heard of its body answers when it is polled. -/
theorem poll_of_heard {under : ScopeId} {output : Output}
    (found : yard.calls.get? id = some (.solo under (some output))) :
    yard.poll id = (some (.completed output), yard.drop id) := by
  rw [poll, found]
  rfl

/-- Dealing with another call gives a call no jobs. -/
theorem Places.crew {other : CallId} {queued : Bool} {assignments : List (Assignment Body)}
    {before : Yard Body} {result : Option Reply × Yard Body}
    (places : Places id queued assignments before result) (apart : other ≠ id)
    (own : ∀ assignment ∈ assignments, ∀ patron, assignment.purpose.patron? = some patron →
      patron = id) : result.2.crew other = before.crew other := by
  obtain ⟨recruits, jobs, ordered⟩ := places.recruits
  have foreign : recruits.filter (worksFor other) = [] := by
    refine List.filter_eq_nil_iff.mpr fun job member works => apart ?_
    exact own _ (ordered job member) other (worksFor_iff.mp works)
  rw [Yard.crew, jobs, List.filter_append, foreign, List.append_nil, Yard.crew]

theorem crew_startJob (yard : Yard Body) (job : JobId) (id : CallId) :
    (yard.startJob job).crew id = (yard.crew id).map fun other =>
      if other.id = job then { other with started := true } else other := by
  have same : ∀ other : Job Body, worksFor id
      (if other.id = job then { other with started := true } else other) = worksFor id other := by
    intro other
    split <;> rfl
  rw [crew, startJob, List.filter_map, crew]
  simp only [Function.comp_def, same]

theorem startsFor_start (yard : Yard Body) (id : CallId) (job : JobId) :
    yard.startsFor id [.start job] =
      (yard.crew id).filter fun other => other.id = job && !other.started := by
  simp only [startsFor, chronicle, starting, List.append_nil, List.filter_filter, crew,
    Bool.and_comm]

theorem Retired.crew_of_foreign {job : Job Body} {output : Output} {before after : Yard Body}
    (retired : Retired job output before after) (foreign : job.purpose.patron? ≠ some id) :
    after.crew id = before.crew id := by
  obtain ⟨older, younger, jobs, rest⟩ := retired.jobs
  have idle : worksFor id job = false :=
    Bool.eq_false_iff.mpr fun works => foreign (worksFor_iff.mp works)
  rw [crew, rest, crew, jobs]
  simp [idle]

/-- A call has no job any more when its only one is over. -/
theorem Retired.crew_of_own {job only : Job Body} {output : Output} {before after : Yard Body}
    (retired : Retired job output before after) (own : job.purpose.patron? = some id)
    (single : before.crew id = [only]) : job = only ∧ after.crew id = [] := by
  obtain ⟨older, younger, jobs, rest⟩ := retired.jobs
  rw [crew, jobs, List.filter_append, List.filter_cons_of_pos (worksFor_iff.mpr own),
    List.append_eq_singleton_iff] at single
  rw [crew, rest, List.filter_append]
  rcases single with ⟨none, alone⟩ | ⟨-, nobody⟩
  · obtain ⟨same, behind⟩ := List.cons.inj alone
    exact ⟨same, by rw [none, behind]; rfl⟩
  · cases nobody

end Yard

/-- A body that is to be run under a scope, and the call that waits for its output. -/
structure Commission (Body : Type) where
  call : CallId
  scope : ScopeId
  body : Body

/-- How far a commission has come: its call waits for a slot; its body has one; its body has ended;
or the call went away before there was a slot. With a slot or an output the call may still be there
to listen or not. -/
inductive Stage where
  | waiting
  | placed (job : JobId) (started listening : Bool)
  | done (job : JobId) (output : Output) (listening : Bool)
  | gone

/-- How far a commission can come, given which bodies end and how. -/
inductive Stage.Leads (ends : JobId → Output → Prop) : Stage → Stage → Prop
  | waits : Leads ends .waiting .waiting
  | leaves : Leads ends .waiting .gone
  | admitted {job : JobId} {started listening : Bool} :
      Leads ends .waiting (.placed job started listening)
  | served {job : JobId} {output : Output} {listening : Bool} (ended : ends job output) :
      Leads ends .waiting (.done job output listening)
  | runs {job : JobId} {started listening going still : Bool} :
      Leads ends (.placed job started listening) (.placed job going still)
  | ended {job : JobId} {output : Output} {started listening still : Bool}
      (ended : ends job output) :
      Leads ends (.placed job started listening) (.done job output still)
  | rests {job : JobId} {output : Output} {listening still : Bool} :
      Leads ends (.done job output listening) (.done job output still)
  | vain : Leads ends .gone .gone

namespace Stage.Leads

variable {early late ends : JobId → Output → Prop} {first second third : Stage}

theorem refl (ends : JobId → Output → Prop) (stage : Stage) : Leads ends stage stage := by
  cases stage <;> constructor

theorem trans (before : Leads early first second) (after : Leads late second third)
    (earlier : ∀ job output, early job output → ends job output)
    (later : ∀ job output, late job output → ends job output) : Leads ends first third := by
  cases before <;> cases after <;> constructor <;>
    first | exact earlier _ _ ‹_› | exact later _ _ ‹_›

end Stage.Leads

namespace Commission

variable {commission : Commission Body} {stage : Stage} {yard : Yard Body}

/-- The job that runs the body. -/
def job (commission : Commission Body) (id : JobId) (started : Bool) : Job Body :=
  ⟨id, .solo commission.call, commission.body, started⟩

/-- The call at a stage, if it is still there. -/
def call? (commission : Commission Body) : Stage → Option (Call Body)
  | .waiting => some (.soloQueued commission.scope commission.body)
  | .placed _ _ true => some (.solo commission.scope none)
  | .done _ output true => some (.solo commission.scope (some output))
  | .placed _ _ false | .done _ _ false | .gone => none

/-- The jobs that the commission has at a stage. -/
def jobs (commission : Commission Body) : Stage → List (Job Body)
  | .placed job started _ => [commission.job job started]
  | .waiting | .done _ _ _ | .gone => []

/-- The jobs that the commission has started up to a stage, as they were before that. -/
def starts (commission : Commission Body) : Stage → List (Job Body)
  | .placed job true _ | .done job _ _ => [commission.job job false]
  | .waiting | .placed _ false _ | .gone => []

/-- Whether a commission is at a stage. -/
structure StandsAt (commission : Commission Body) (stage : Stage) (yard : Yard Body) : Prop where
  known : commission.call.serial < yard.callCount
  call : yard.calls.get? commission.call = commission.call? stage
  crew : yard.crew commission.call = commission.jobs stage

/-- Whether the body was started and ended this way in the course of a history. -/
def EndsAs (commission : Commission Body) (yard : Yard Body) (history : List (Event Body))
    (job : JobId) (ending : Ending) : Prop :=
  ∃ earlier rest, history = earlier ++ .finish job ending :: rest ∧
    commission.job job true ∈ (yard.after earlier).jobs

/-- Whether the body was started and ended, and this is what its call hears of it. -/
def Ended (commission : Commission Body) (yard : Yard Body) (history : List (Event Body))
    (job : JobId) (output : Output) : Prop :=
  ∃ ending, commission.EndsAs yard history job ending ∧ ending.reply = output

theorem EndsAs.append {history : List (Event Body)} {job : JobId} {ending : Ending}
    (ends : commission.EndsAs yard history job ending) (later : List (Event Body)) :
    commission.EndsAs yard (history ++ later) job ending := by
  obtain ⟨earlier, rest, rfl, running⟩ := ends
  exact ⟨earlier, rest ++ later, by simp, running⟩

theorem EndsAs.prepend {history : List (Event Body)} {job : JobId} {ending : Ending}
    {before : List (Event Body)} (ends : commission.EndsAs (yard.after before) history job ending) :
    commission.EndsAs yard (before ++ history) job ending := by
  obtain ⟨earlier, rest, rfl, running⟩ := ends
  refine ⟨before ++ earlier, rest, by simp, ?_⟩
  rwa [Yard.after_append]

/-- How far a commission comes in the course of a history. -/
structure Comes (commission : Commission Body) (yard : Yard Body) (history : List (Event Body))
    (stage later : Stage) : Prop where
  stands : commission.StandsAt later (yard.after history)
  starts : commission.starts later =
    commission.starts stage ++ yard.startsFor commission.call history
  leads : Stage.Leads (commission.Ended yard history) stage later

theorem Comes.trans {first second : List (Event Body)} {between later : Stage}
    (early : commission.Comes yard first stage between)
    (late : commission.Comes (yard.after first) second between later) :
    commission.Comes yard (first ++ second) stage later where
  stands := by
    rw [Yard.after_append]
    exact late.stands
  starts := by
    rw [late.starts, early.starts, Yard.startsFor_append, List.append_assoc]
  leads := by
    refine early.leads.trans late.leads ?_ ?_
    · rintro job output ⟨ending, ends, same⟩
      exact ⟨ending, ends.append second, same⟩
    · rintro job output ⟨ending, ends, same⟩
      exact ⟨ending, ends.prepend, same⟩

/-! ### Events that are not about a commission -/

/-- An event that starts no body and leaves the call as it was, or without its call. -/
theorem comes_of_still {later : Stage} {event : Event Body} (kept : yard.Kept)
    (stands : commission.StandsAt stage yard) (quiet : yard.starting event = [])
    (call : (yard.step event).calls.get? commission.call = commission.call? later)
    (crew : (yard.step event).crew commission.call = yard.crew commission.call)
    (jobs : commission.jobs later = commission.jobs stage)
    (starts : commission.starts later = commission.starts stage)
    (leads : Stage.Leads (commission.Ended yard [event]) stage later) :
    commission.Comes yard [event] stage later where
  stands := ⟨Nat.lt_of_lt_of_le stands.known (kept.callCount_le event), call,
    crew.trans (stands.crew.trans jobs.symm)⟩
  starts := by
    simp [starts, Yard.startsFor, Yard.chronicle, quiet]
  leads := leads

theorem comes_of_same {event : Event Body} (kept : yard.Kept)
    (stands : commission.StandsAt stage yard) (quiet : yard.starting event = [])
    (calls : (yard.step event).calls.get? commission.call = yard.calls.get? commission.call)
    (crew : (yard.step event).crew commission.call = yard.crew commission.call) :
    ∃ later, commission.Comes yard [event] stage later :=
  ⟨stage, comes_of_still kept stands quiet (calls.trans stands.call) crew rfl rfl (.refl _ _)⟩

/-- Only a commission that has a slot and has not ended has a job. -/
theorem placed_of_mem {job : Job Body} (member : job ∈ commission.jobs stage) :
    ∃ id started listening, stage = .placed id started listening ∧
      job = commission.job id started := by
  cases stage with
  | placed id started listening =>
    exact ⟨id, started, listening, rfl, List.mem_singleton.mp member⟩
  | waiting | done | gone => cases member

/-- Another call begins. -/
theorem comes_begin (kept : yard.Kept) (stands : commission.StandsAt stage yard)
    (request : Request Body) : ∃ later, commission.Comes yard [.begin request] stage later := by
  have places := kept.places_begin request
  have apart : commission.call ≠ ⟨yard.callCount⟩ := fun same => by
    have known := stands.known
    rw [same] at known
    exact Nat.lt_irrefl _ known
  refine comes_of_same kept stands rfl ?_ ?_
  · rw [Yard.step, places.others apart, Yard.calls_prepared]
  · rw [Yard.step, places.crew apart fun assignment member patron works =>
      Yard.patron_of_mem_offered member works]
    rw [Yard.crew, Yard.jobs_prepared, Yard.crew]

/-- Another call is polled. -/
theorem comes_poll_other {id : CallId} (kept : yard.Kept) (stands : commission.StandsAt stage yard)
    (apart : commission.call ≠ id) : ∃ later, commission.Comes yard [.poll id] stage later := by
  cases found : yard.calls.get? id with
  | none =>
    have same := Yard.poll_of_absent found
    exact comes_of_same kept stands rfl (by rw [Yard.step, same]) (by rw [Yard.step, same])
  | some call =>
    have places := Yard.places_poll found
    exact comes_of_same kept stands rfl (places.others apart)
      (places.crew apart fun assignment member patron works =>
        Call.patron_of_mem_assignments member works)

/-- A job starts. -/
theorem comes_start (stands : commission.StandsAt stage yard) (job : JobId) :
    ∃ later, commission.Comes yard [.start job] stage later := by
  have crew := yard.crew_startJob job commission.call
  have starts := yard.startsFor_start commission.call job
  rw [stands.crew] at crew starts
  have known : commission.call.serial < (yard.step (.start job)).callCount := stands.known
  cases stage with
  | placed id started listening =>
    have call : yard.calls.get? commission.call = commission.call? (.placed id true listening) :=
      stands.call.trans (by cases listening <;> rfl)
    by_cases same : id = job
    · refine ⟨.placed id true listening, ⟨known, call, ?_⟩, ?_, .runs⟩
      · exact crew.trans (by simp [jobs, Commission.job, same])
      · rw [starts]
        cases started <;> simp [Commission.starts, jobs, Commission.job, same]
    · refine ⟨.placed id started listening, ⟨known, stands.call, ?_⟩, ?_, .runs⟩
      · exact crew.trans (by simp [jobs, Commission.job, same])
      · simp [starts, jobs, Commission.job, same]
  | waiting => exact ⟨.waiting, ⟨known, stands.call, crew⟩, starts.symm, .waits⟩
  | done id output listening =>
    refine ⟨.done id output listening, ⟨known, stands.call, crew⟩, ?_, .rests⟩
    rw [starts]
    exact (List.append_nil _).symm
  | gone => exact ⟨.gone, ⟨known, stands.call, crew⟩, starts.symm, .vain⟩

/-- A body ends. -/
theorem comes_finish (kept : yard.Kept) (stands : commission.StandsAt stage yard) (job : JobId)
    (ending : Ending) : ∃ later, commission.Comes yard [.finish job ending] stage later := by
  rcases kept.inOrder.finished job ending with same | ⟨other, member, rfl, started, retired⟩
  · exact comes_of_same kept stands rfl (by rw [Yard.step, same]) (by rw [Yard.step, same])
  · have calls := retired.calls commission.call
    by_cases own : other.purpose.patron? = some commission.call
    · have works : other ∈ yard.crew commission.call :=
        List.mem_filter.mpr ⟨member, Yard.worksFor_iff.mpr own⟩
      -- The call has but one job, so this is the one that has ended.
      obtain ⟨id, running, listening, rfl, same⟩ := placed_of_mem (stands.crew ▸ works)
      subst same
      obtain rfl : running = true := started
      have known := Nat.lt_of_lt_of_le stands.known (kept.callCount_le (.finish id ending))
      rw [if_pos own, stands.call] at calls
      refine ⟨.done id ending.reply listening, ⟨known, ?_, ?_⟩, ?_, ?_⟩
      · exact calls.trans (by cases listening <;> rfl)
      · exact (retired.crew_of_own own stands.crew).2
      · exact (List.append_nil _).symm
      · exact .ended ⟨ending, ⟨[], [], rfl, member⟩, rfl⟩
    · rw [if_neg own] at calls
      exact comes_of_same kept stands rfl calls (retired.crew_of_foreign own)

/-- A body of a batch is dropped. -/
theorem comes_abandon (kept : yard.Kept) (stands : commission.StandsAt stage yard) (job : JobId) :
    ∃ later, commission.Comes yard [.abandon job] stage later := by
  rcases kept.inOrder.abandoned job with
    same | ⟨other, member, -, call, task, scope, reason, purpose, -, retired⟩
  · exact comes_of_same kept stands rfl (by rw [Yard.step, same]) (by rw [Yard.step, same])
  -- Only bodies of batches are dropped when their scope ends, and this body is none of them.
  · have foreign : other.purpose.patron? ≠ some commission.call := fun own => by
      have works : other ∈ yard.crew commission.call :=
        List.mem_filter.mpr ⟨member, Yard.worksFor_iff.mpr own⟩
      obtain ⟨id, running, listening, -, rfl⟩ := placed_of_mem (stands.crew ▸ works)
      cases purpose
    have calls := retired.calls commission.call
    rw [if_neg foreign] at calls
    exact comes_of_same kept stands rfl calls (retired.crew_of_foreign foreign)

/-! ### The call itself -/

/-- The call is dropped. -/
theorem comes_drop (kept : yard.Kept) (stands : commission.StandsAt stage yard) :
    ∃ later, commission.Comes yard [.drop commission.call] stage later := by
  have gone : (yard.drop commission.call).calls.get? commission.call = none := by
    simp [Yard.drop, Listing.get?_remove]
  cases stage with
  | waiting => exact ⟨.gone, comes_of_still kept stands rfl gone rfl rfl rfl .leaves⟩
  | placed job started listening =>
    refine ⟨.placed job started false, comes_of_still kept stands rfl gone rfl rfl ?_ .runs⟩
    cases started <;> rfl
  | done job output listening =>
    exact ⟨.done job output false, comes_of_still kept stands rfl gone rfl rfl rfl .rests⟩
  | gone => exact ⟨.gone, comes_of_still kept stands rfl gone rfl rfl rfl .vain⟩

/-- What an answer says, and how far the commission has come when it is given. -/
inductive Says (commission : Commission Body) (yard : Yard Body) : Output → Stage → Prop
  | ended {job : JobId} {output : Output} : Says commission yard output (.done job output false)
  | refused {error : PoolError} : Says commission yard (.error (.submit error)) .gone
  | tooLate {reason : EndReason} (written : yard.scopes.written? commission.scope = some reason) :
      Says commission yard (.error (.scope reason)) .gone
  | meanwhile {reason : EndReason} {job : JobId} {started : Bool}
      (written : yard.scopes.written? commission.scope = some reason) :
      Says commission yard (.error (.scope reason)) (.placed job started false)

/-- Whether the answer, if there is one, says how far the commission has come. -/
def Reports (commission : Commission Body) (result : Option Reply × Yard Body) (stage : Stage) :
    Prop :=
  ∀ reply, result.1 = some reply →
    ∃ output, reply = .completed output ∧ commission.Says result.2 output stage

/-- Before the call hears of its body, only the end of the scope is an answer. -/
theorem pollSolo_of_unheard (commission : Commission Body) (yard : Yard Body) (job : JobId)
    (started : Bool) : ∃ listening,
    (yard.pollSolo commission.call commission.scope none).2.calls.get? commission.call =
        commission.call? (.placed job started listening) ∧
      (yard.pollSolo commission.call commission.scope none).2.jobs = yard.jobs ∧
      commission.Reports (yard.pollSolo commission.call commission.scope none)
        (.placed job started listening) := by
  unfold Yard.pollSolo
  cases ended : yard.ended? commission.scope with
  | some reason =>
    rw [Yard.query_of_some ended]
    refine ⟨false, by simp [Yard.drop, Listing.get?_remove, call?], rfl, ?_⟩
    rintro reply ⟨⟩
    exact ⟨_, rfl, .meanwhile (Scopes.written?_settle_of_ended ended)⟩
  | none =>
    rw [Yard.query_of_none ended]
    refine ⟨true, by simp [Yard.keep, Listing.get?_put, call?], rfl, ?_⟩
    rintro reply ⟨⟩

/-- What comes of asking for the slot: there is one, there will never be one, or the call waits. -/
structure Asks (commission : Commission Body) (before : Yard Body) (stage : Stage)
    (result : Option Reply × Yard Body) : Prop where
  call : result.2.calls.get? commission.call = commission.call? stage
  crew : result.2.crew commission.call = before.crew commission.call ++ commission.jobs stage
  starts : commission.starts stage = []
  leads : ∀ ends, Stage.Leads ends .waiting stage
  reports : commission.Reports result stage

theorem asks_pollSoloQueued (commission : Commission Body) (yard : Yard Body) (queued : Bool) :
    ∃ stage, commission.Asks yard stage
      (yard.pollSoloQueued commission.call commission.scope commission.body queued) := by
  unfold Yard.pollSoloQueued
  rcases yard.slots.turn commission.call queued with ⟨turn, slots⟩
  cases turn with
  | admitted =>
    simp only
    obtain ⟨listening, call, jobs, reports⟩ := commission.pollSolo_of_unheard
      ({ yard with slots := slots }.enlist (.solo commission.call) commission.body)
      ⟨yard.jobCount⟩ false
    refine ⟨.placed ⟨yard.jobCount⟩ false listening, call, ?_, rfl, fun _ => .admitted, reports⟩
    rw [Yard.crew, jobs]
    simp [Yard.enlist, Yard.crew, Commission.jobs, job, Yard.worksFor, List.filter_append]
  | refused error =>
    refine ⟨.gone, by simp [Yard.drop, Listing.get?_remove, call?], (List.append_nil _).symm, rfl,
      fun _ => .leaves, ?_⟩
    rintro reply ⟨⟩
    exact ⟨_, rfl, .refused⟩
  | queued =>
    simp only
    cases ended : { yard with slots := slots }.ended? commission.scope with
    | some reason =>
      rw [Yard.query_of_some ended]
      refine ⟨.gone, by simp [Yard.drop, Listing.get?_remove, call?], (List.append_nil _).symm, rfl,
        fun _ => .leaves, ?_⟩
      rintro reply ⟨⟩
      exact ⟨_, rfl, .tooLate (Scopes.written?_settle_of_ended ended)⟩
    | none =>
      rw [Yard.query_of_none ended]
      refine ⟨.waiting, by simp [Yard.keep, Listing.get?_put, call?], (List.append_nil _).symm, rfl,
        fun _ => .waits, ?_⟩
      rintro reply ⟨⟩

theorem Asks.comes {before : Yard Body} {event : Event Body} {result : Option Reply × Yard Body}
    (asks : commission.Asks before stage result)
    (known : commission.call.serial < result.2.callCount)
    (bare : before.crew commission.call = []) (quiet : yard.starting event = [])
    (same : yard.after [event] = result.2) : commission.Comes yard [event] .waiting stage where
  stands := by
    have crew := asks.crew
    rw [bare, List.nil_append] at crew
    rw [same]
    exact ⟨known, asks.call, crew⟩
  starts := by
    rw [asks.starts]
    simp [Commission.starts, Yard.startsFor, Yard.chronicle, quiet]
  leads := asks.leads _

/-- A call that is not there any more is polled in vain. -/
theorem comes_poll_of_absent (kept : yard.Kept) (stands : commission.StandsAt stage yard)
    (absent : commission.call? stage = none) :
    ∃ later, commission.Comes yard [.poll commission.call] stage later ∧
      commission.Reports (yard.poll commission.call) later := by
  have same := Yard.poll_of_absent (stands.call.trans absent)
  obtain ⟨later, comes⟩ := comes_of_same kept stands rfl
    (show (yard.step (.poll commission.call)).calls.get? commission.call = _ by
      rw [Yard.step, same]) (by rw [Yard.step, same])
  refine ⟨later, comes, ?_⟩
  rw [same]
  rintro reply ⟨⟩

/-- The call is polled. -/
theorem comes_poll (kept : yard.Kept) (stands : commission.StandsAt stage yard) :
    ∃ later, commission.Comes yard [.poll commission.call] stage later ∧
      commission.Reports (yard.poll commission.call) later := by
  have known := Nat.lt_of_lt_of_le stands.known (kept.callCount_le (.poll commission.call))
  have found := stands.call
  cases stage with
  | waiting =>
    have same : yard.poll commission.call =
        yard.pollSoloQueued commission.call commission.scope commission.body true := by
      rw [Yard.poll, found]
      rfl
    obtain ⟨stage, asks⟩ := asks_pollSoloQueued commission yard true
    rw [← same] at asks
    exact ⟨stage, asks.comes known stands.crew rfl rfl, asks.reports⟩
  | placed job started listening =>
    cases listening with
    | false => exact comes_poll_of_absent kept stands rfl
    | true =>
      have same : yard.poll commission.call =
          yard.pollSolo commission.call commission.scope none := by
        rw [Yard.poll, found]
        rfl
      obtain ⟨listening, call, jobs, reports⟩ :=
        commission.pollSolo_of_unheard yard job started
      rw [← same] at call jobs reports
      refine ⟨.placed job started listening, ?_, reports⟩
      refine comes_of_still kept stands rfl call ?_ rfl ?_ .runs
      · rw [Yard.crew, Yard.step, jobs, Yard.crew]
      · cases started <;> rfl
  | done job output listening =>
    cases listening with
    | false => exact comes_poll_of_absent kept stands rfl
    | true =>
      have same := Yard.poll_of_heard found
      have gone : (yard.drop commission.call).calls.get? commission.call = none := by
        simp [Yard.drop, Listing.get?_remove]
      refine ⟨.done job output false, ?_, ?_⟩
      · refine comes_of_still kept stands rfl ?_ ?_ rfl rfl .rests
        · rw [Yard.step, same]
          exact gone
        · rw [Yard.step, same]
          rfl
      · rw [same]
        rintro reply ⟨⟩
        exact ⟨output, rfl, .ended⟩
  | gone => exact comes_poll_of_absent kept stands rfl

/-! ### Whatever happens -/

theorem comes_step (kept : yard.Kept) (stands : commission.StandsAt stage yard)
    (event : Event Body) : ∃ later, commission.Comes yard [event] stage later := by
  cases event with
  | tick moment =>
    obtain ⟨now, -, moved⟩ := Yard.advanceTo_eq yard moment
    exact comes_of_same kept stands rfl (by rw [Yard.step, moved]) (by rw [Yard.step, moved]; rfl)
  | push scope label body =>
    obtain ⟨scopes, backlog, taskCount, journal, -, pushed⟩ := Yard.push_eq yard scope label body
    exact comes_of_same kept stands rfl (by rw [Yard.step, pushed]) (by rw [Yard.step, pushed]; rfl)
  | begin request => exact comes_begin kept stands request
  | poll id =>
    by_cases same : commission.call = id
    · obtain ⟨later, comes, -⟩ := comes_poll kept stands
      exact ⟨later, same ▸ comes⟩
    · exact comes_poll_other kept stands same
  | drop id =>
    by_cases same : commission.call = id
    · exact same ▸ comes_drop kept stands
    · exact comes_of_same kept stands rfl
        (by simp [Yard.step, Yard.drop, Listing.get?_remove, same]) rfl
  | start job => exact comes_start stands job
  | finish job ending => exact comes_finish kept stands job ending
  | abandon job => exact comes_abandon kept stands job
  | openScope | cancel | query | discard | setTimeout | release =>
    exact comes_of_same kept stands rfl rfl rfl

/-- Whatever happens, a commission only goes forward. -/
theorem comes_after (kept : yard.Kept) (stands : commission.StandsAt stage yard)
    (history : List (Event Body)) : ∃ later, commission.Comes yard history stage later := by
  induction history generalizing yard stage with
  | nil =>
    exact ⟨stage, stands, (List.append_nil _).symm, .refl _ _⟩
  | cons event rest inductionHypothesis =>
    obtain ⟨between, early⟩ := comes_step kept stands event
    obtain ⟨later, late⟩ := inductionHypothesis (kept.step event) early.stands
    exact ⟨later, early.trans late⟩

end Commission

end Taskyard

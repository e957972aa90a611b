/-
This file shows that whoever asks for one body to be run under a scope is told
the truth about it. An output is that of the body, which started once and has
ended; a refusal means that the body will never start; and the end of the scope
means that either the body will never start, or it has its slot and goes on
without anybody who waits for it, until it ends by itself.

One answer can mean two things. If no report can be made of the error in which a
body ends, its output is lost, and its call is answered as if the slots had been
closed. Whoever makes reports of errors promises that this never fails; where
the promise is kept a refusal is a refusal.
-/

import Taskyard.Proofs.Commission
import Taskyard.Proofs.EndReasons

namespace Taskyard

variable {Body : Type}

namespace Yard

/-- Whether a report could be made of every error in a history. Whoever makes reports of errors
promises so. -/
def Reportable (history : List (Event Body)) : Prop :=
  ∀ job payload, Event.finish job (.unreported payload) ∉ history

/-- How a request comes to its answer: at once, or in a poll after other things have happened. The
history goes up to the answer. -/
inductive Answered (yard : Yard Body) (request : Request Body) (reply : Reply) :
    List (Event Body) → Prop
  | atOnce (begun : (yard.begin request).2.1 = some reply) :
      Answered yard request reply [.begin request]
  | inPoll {between : List (Event Body)}
      (polled : (((yard.begin request).2.2.after between).poll (yard.begin request).1).1 =
        some reply) :
      Answered yard request reply (.begin request :: between ++ [.poll (yard.begin request).1])

/-- The commission that a request makes. -/
def commission (yard : Yard Body) (scope : ScopeId) (body : Body) : Commission Body :=
  ⟨⟨yard.callCount⟩, scope, body⟩

end Yard

namespace Commission

variable {commission : Commission Body} {yard : Yard Body} {history : List (Event Body)}

/-- Whether the body has run by the end of a history: it has ended with this output, and has started
only once, whatever happens later. -/
def Ran (commission : Commission Body) (yard : Yard Body) (history : List (Event Body))
    (output : Output) : Prop :=
  ∃ job, commission.Ended yard history job output ∧
    ∀ later, yard.startsFor commission.call (history ++ later) = [commission.job job false]

/-- Whether the output of the body is lost by the end of a history: it has ended with an error of
which no report could be made, and has started only once, whatever happens later. -/
def Lost (commission : Commission Body) (yard : Yard Body) (history : List (Event Body)) : Prop :=
  ∃ job payload, commission.EndsAs yard history job (.unreported payload) ∧
    ∀ later, yard.startsFor commission.call (history ++ later) = [commission.job job false]

/-- Whether the body goes on by itself after a history. Whatever happens later, either it has one
slot and can start and end, or it has ended, after one start. -/
def RunsOn (commission : Commission Body) (yard : Yard Body) (history : List (Event Body))
    (job : JobId) : Prop :=
  ∀ later,
    (∃ started, (yard.after (history ++ later)).crew commission.call =
        [commission.job job started] ∧
      yard.startsFor commission.call (history ++ later) =
        (if started then [commission.job job false] else []) ∧
      ∀ ending, commission.EndsAs yard (history ++ later ++ [.start job, .finish job ending]) job
        ending) ∨
    ((∃ output, commission.Ended yard (history ++ later) job output) ∧
      (yard.after (history ++ later)).crew commission.call = [] ∧
      yard.startsFor commission.call (history ++ later) = [commission.job job false])

/-- Whether the body has no slot and does not start, whatever happens after a history. -/
def NeverStarts (commission : Commission Body) (yard : Yard Body) (history : List (Event Body)) :
    Prop :=
  ∀ later, yard.startsFor commission.call (history ++ later) = [] ∧
    (yard.after (history ++ later)).crew commission.call = []

/-- What an answer at the end of a history tells of the body. -/
def Tells (commission : Commission Body) (yard : Yard Body) (history : List (Event Body)) :
    Output → Prop
  | .ok value => commission.Ran yard history (.ok value)
  | .error (.failed cause) => commission.Ran yard history (.error (.failed cause))
  | .error (.panicked message) => commission.Ran yard history (.error (.panicked message))
  | .error (.submit error) =>
      commission.NeverStarts yard history ∨ error = .closed ∧ commission.Lost yard history
  | .error (.scope reason) =>
      (∀ later, (yard.after (history ++ later)).ended? commission.scope = some reason) ∧
        (commission.NeverStarts yard history ∨ ∃ job, commission.RunsOn yard history job)
  | .error (.timeout _) => False

/-! ### What the stages say of the body -/

variable {stage : Stage}

theorem Comes.startsFor (comes : commission.Comes yard history .waiting stage) :
    yard.startsFor commission.call history = commission.starts stage :=
  comes.starts.symm

/-- However far a commission has come, it only goes forward. -/
theorem Comes.goesOn (comes : commission.Comes yard history .waiting stage) (kept : yard.Kept)
    (later : List (Event Body)) : ∃ last, commission.Comes yard (history ++ later) .waiting last ∧
      Stage.Leads (commission.Ended (yard.after history) later) stage last := by
  obtain ⟨last, late⟩ := comes_after (kept.after history) comes.stands later
  exact ⟨last, comes.trans late, late.leads⟩

theorem Comes.ran {job : JobId} {output : Output} {listening : Bool}
    (comes : commission.Comes yard history .waiting (.done job output listening))
    (kept : yard.Kept) : commission.Ran yard history output := by
  refine ⟨job, ?_, fun later => ?_⟩
  · cases comes.leads with
    | served ended => exact ended
  · obtain ⟨last, total, leads⟩ := comes.goesOn kept later
    cases leads
    exact total.startsFor

theorem Comes.neverStarts (comes : commission.Comes yard history .waiting .gone)
    (kept : yard.Kept) : commission.NeverStarts yard history := by
  intro later
  obtain ⟨last, total, leads⟩ := comes.goesOn kept later
  cases leads
  exact ⟨total.startsFor, total.stands.crew⟩

/-- A body that has its slot can start and end. -/
theorem StandsAt.canEnd {job : JobId} {started listening : Bool}
    (stands : commission.StandsAt (.placed job started listening) (yard.after history))
    (ending : Ending) :
    commission.EndsAs yard (history ++ [.start job, .finish job ending]) job ending := by
  refine ⟨history ++ [.start job], [], by simp, ?_⟩
  have crew := (yard.after history).crew_startJob job commission.call
  rw [stands.crew] at crew
  have running :
      commission.job job true ∈ ((yard.after history).startJob job).crew commission.call := by
    rw [crew]
    simp [jobs, Commission.job]
  rw [Yard.after_concat]
  exact List.mem_of_mem_filter running

theorem Comes.runsOn {job : JobId} {started listening : Bool}
    (comes : commission.Comes yard history .waiting (.placed job started listening))
    (kept : yard.Kept) : commission.RunsOn yard history job := by
  intro later
  obtain ⟨last, total, leads⟩ := comes.goesOn kept later
  cases leads with
  | @runs _ _ _ going still =>
    refine .inl ⟨going, total.stands.crew, ?_, total.stands.canEnd⟩
    rw [total.startsFor]
    cases going <;> rfl
  | @ended _ output =>
    refine .inr ⟨⟨output, ?_⟩, total.stands.crew, total.startsFor⟩
    cases total.leads with
    | served ended => exact ended

theorem EndsAs.not_reportable {job : JobId} {payload : Payload}
    (ends : commission.EndsAs yard history job (.unreported payload)) :
    ¬Yard.Reportable history := by
  obtain ⟨earlier, rest, rfl, -⟩ := ends
  exact fun reportable => reportable job payload (by simp)

/-- Where a report can be made of every error no output is lost. -/
theorem Lost.not_reportable (lost : commission.Lost yard history) : ¬Yard.Reportable history := by
  obtain ⟨job, payload, ends, -⟩ := lost
  exact ends.not_reportable

/-- An answer that says how far the commission has come tells the truth about the body. -/
theorem Comes.tells {output : Output} (comes : commission.Comes yard history .waiting stage)
    (kept : yard.Kept) (told : commission.Says (yard.after history) output stage) :
    commission.Tells yard history output := by
  have ended : ∀ {reason},
      (yard.after history).scopes.written? commission.scope = some reason →
      ∀ later, (yard.after (history ++ later)).ended? commission.scope = some reason := by
    intro reason written later
    rw [Yard.after_append]
    exact Scopes.ended?_of_written ((kept.after history).written_after written later) _
  cases told with
  | ended =>
    obtain ⟨job, ⟨ending, ends, rfl⟩, once⟩ := comes.ran kept
    cases ending with
    | unreported payload => exact .inr ⟨rfl, job, payload, ends, once⟩
    | returned | failed | panicked => exact ⟨job, ⟨_, ends, rfl⟩, once⟩
  | refused => exact .inl (comes.neverStarts kept)
  | tooLate written => exact ⟨ended written, .inl (comes.neverStarts kept)⟩
  | @meanwhile _ job _ written => exact ⟨ended written, .inr ⟨job, comes.runsOn kept⟩⟩

end Commission

namespace Yard

variable {yard : Yard Body} {scope : ScopeId} {body : Body}

/-! ### From the request to the answer -/

/-- What comes of asking for a body to be run. -/
theorem Kept.comes_submitTask (kept : yard.Kept) (scope : ScopeId) (body : Body) :
    ∃ stage, (yard.commission scope body).Comes yard [.begin (.submitTask scope body)] .waiting
        stage ∧
      (yard.commission scope body).Reports (yard.begin (.submitTask scope body)).2 stage := by
  have known := kept.known_begin (.submitTask scope body)
  obtain ⟨-, unstaffed, absent⟩ := kept.inOrder.fresh
  have bare : (yard.prepared (.submitTask scope body)).crew ⟨yard.callCount⟩ = [] :=
    List.map_eq_nil_iff.mp unstaffed
  have asks : ∃ stage, (yard.commission scope body).Asks (yard.prepared (.submitTask scope body))
      stage (yard.begin (.submitTask scope body)).2 := by
    cases ended : yard.ended? scope with
    | some reason =>
      rw [begin_submitTask_of_ended ended]
      refine ⟨.gone, absent, (List.append_nil _).symm, rfl, fun _ => .leaves, ?_⟩
      rintro reply ⟨⟩
      exact ⟨_, rfl, .tooLate (Scopes.written?_settle_of_ended ended)⟩
    | none =>
      rw [begin_submitTask_of_going ended]
      exact (yard.commission scope body).asks_pollSoloQueued _ false
  obtain ⟨stage, asks⟩ := asks
  exact ⟨stage, asks.comes known bare rfl rfl, asks.reports⟩

/-- However much happens after the request, the commission has come somewhere. -/
theorem Kept.comes_between (kept : yard.Kept) (scope : ScopeId) (body : Body)
    (between : List (Event Body)) : ∃ stage, (yard.commission scope body).Comes yard
      (.begin (.submitTask scope body) :: between) .waiting stage := by
  obtain ⟨first, begun, -⟩ := kept.comes_submitTask scope body
  obtain ⟨stage, waits⟩ :=
    Commission.comes_after (kept.begin (.submitTask scope body)) begun.stands between
  exact ⟨stage, begun.trans waits⟩

/-- A body that ends with an error of which no report can be made is answered for as if the slots
were closed, which they are not. -/
example : ∃ yard : Yard Unit, Reached (.ofCapacity 1) yard ∧
    yard.Answered (.submitTask ⟨1⟩ ()) (.completed (.error (.submit .closed)))
      (.begin (.submitTask ⟨1⟩ ()) :: [.start ⟨0⟩, .finish ⟨0⟩ (.unreported .other)] ++
        [.poll ⟨0⟩]) ∧
    (yard.step (.begin (.submitTask ⟨1⟩ ()))).slots.closed = false :=
  ⟨_, ⟨_, [.openScope .root], rfl, rfl⟩, .inPoll rfl, rfl⟩

end Yard

end Taskyard

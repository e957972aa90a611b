/-
This file shows that the application's own work succeeds whatever its settings
are, with one exception. The run submits a body and asks for the output of a
second one before the first has had its turn; where there is a single slot and
nobody may queue, the second is refused and the run ends with that. A shutdown
that follows succeeds in every case, since all bodies of the run are brief, and
leaves nobody with a slot and nobody waiting for one.
-/

import Taskyard.Application
import Taskyard.Proofs.Rounds

namespace Taskyard

/-- Whether settings leave no room for a second body: there is one slot, and nobody may queue. -/
def Settings.AreCramped (settings : Settings) : Prop :=
  settings.pool.size = 1 ∧ settings.pool.nonblocking = true

instance (settings : Settings) : Decidable settings.AreCramped :=
  inferInstanceAs (Decidable (_ ∧ _))

/-- A scope that is opened with time ahead of it goes on, and the others do as before. -/
theorem Scopes.ended?_add {scopes : Scopes} {now : Duration} {deadline : Option Duration}
    (ahead : ∀ moment ∈ deadline, now < moment) (scope : ScopeId) :
    (scopes.add none deadline).2.ended? now scope =
      if scope.number = scopes.records.length + 1 then none else scopes.ended? now scope := by
  simp only [Scopes.ended?, Scopes.isOverdue, Scopes.deadline?, Scopes.isCancelled, Scopes.record?,
    Scopes.add, Scopes.find?, Scopes.cancelledIn]
  by_cases new : scope.number = scopes.records.length + 1
  · cases deadline with
    | none => simp [new]
    | some moment => simp [new, Duration.not_le.mpr (ahead moment rfl)]
  · simp only [if_neg new]
    rfl

namespace Yard

variable {yard : Yard Task}

/-! ### Steps that leave a yard brisk -/

theorem Brisk.note (brisk : yard.Brisk) (note : Note) : (yard.note note).Brisk :=
  brisk.alike ⟨brisk.unstarted, brisk.hired, brisk.wanted⟩
    ⟨brisk.kept.inOrder.of_floor rfl, brisk.kept.stocked.of_same rfl rfl⟩ rfl rfl rfl
    fun _ => List.Subset.refl _

/-- A scope may be opened that has time ahead of it. -/
theorem Brisk.opened (brisk : yard.Brisk) (deadline : Option Duration)
    (ahead : ∀ moment ∈ deadline, yard.now < moment) :
    { yard with scopes := (yard.scopes.add none deadline).2 }.Brisk where
  unstarted := brisk.unstarted
  hired := brisk.hired
  wanted := brisk.wanted
  kept := ⟨brisk.kept.inOrder.of_floor rfl, brisk.kept.stocked.of_same rfl rfl⟩
  roomy := brisk.roomy
  going scope := by
    have others : yard.scopes.ended? yard.now scope = none := brisk.going scope
    simp only [ended?, Scopes.ended?_add ahead, others, ite_self]
  pushed := brisk.pushed

theorem Brisk.push (brisk : yard.Brisk) (scope : ScopeId) (label : String) {body : Task}
    (brief : body.IsBrief) : (yard.push scope label body).2.Brisk := by
  have kept := brisk.kept.step (.push scope label body)
  by_cases closed : yard.slots.closed = true
  · rw [push_of_closed (brisk.going scope) closed]
    exact brisk
  · rw [Yard.step, push_of_open (brisk.going scope) closed] at kept
    rw [push_of_open (brisk.going scope) closed]
    exact {
      unstarted := brisk.unstarted
      hired := brisk.hired
      wanted := brisk.wanted
      kept := kept
      roomy := brisk.roomy
      going := brisk.going
      pushed := fun other entry member => by
        simp only [store, Yard.note, Backlog.batch_push] at member
        split at member
        · rcases List.mem_append.mp member with stored | new
          · exact brisk.pushed scope entry stored
          · exact List.mem_singleton.mp new ▸ brief
        · exact brisk.pushed other entry member }

theorem Brisk.release (brisk : yard.Brisk) : yard.release.Brisk :=
  brisk.alike ⟨brisk.unstarted, brisk.hired, brisk.wanted⟩ (brisk.kept.step .release) rfl rfl rfl
    fun _ => List.nil_subset _

end Yard

namespace Application

variable {app : Application} {settings : Settings}

/-! ### The tasks of the run -/

theorem isBrief_greeting : greeting.IsBrief where
  callable := rfl
  speaks := List.forall_mem_singleton.mpr ⟨_, _, rfl⟩
  returns _ := ⟨_, rfl⟩

theorem isBrief_adding (name : String) (first second : Int64) :
    (adding name first second).IsBrief where
  callable := rfl
  speaks := List.forall_mem_nil _
  returns _ := ⟨_, rfl⟩

theorem isBrief_labelling (name text : String) : (labelling name text).IsBrief where
  callable := rfl
  speaks := List.forall_mem_nil _
  returns _ := ⟨_, rfl⟩

/-! ### Between two steps -/

/-- Whether an application with these settings is between two steps of its work. -/
structure IsIdle (settings : Settings) (app : Application) : Prop where
  ours : app.settings = settings
  facility : app.world.facility = .pool
  atRest : app.world.IsAtRest
  brisk : app.world.yard.Brisk
  nobody : app.world.yard.NobodyWaits
  start : app.world.yard.now = .zero
  capacity : app.world.yard.slots.capacity = settings.pool.size

theorem isIdle_of_open? (opened : open? settings = .ok app) :
    app.IsIdle settings ∧ Slots.open? settings.options = .ok app.world.yard.slots := by
  unfold open? at opened
  cases yard : (Yard.openNoted? settings.options : Except PoolError (Yard Task)) with
  | error error =>
    rw [yard] at opened
    cases opened
  | ok start =>
    rw [yard] at opened
    cases opened
    obtain ⟨kept, -, capacity⟩ := Yard.kept_openNoted? yard
    obtain ⟨slots, places, rfl⟩ := Yard.openNoted?_eq yard
    have some : 0 < settings.options.capacity := by
      unfold Slots.open? at places
      split at places
      · cases places
      · omega
    refine ⟨?_, places⟩
    exact {
      ours := rfl
      facility := rfl
      atRest := ⟨rfl, rfl⟩
      brisk := {
        unstarted := List.forall_mem_nil _
        hired := List.forall_mem_nil _
        wanted := fun _ _ none => by cases none
        kept := kept
        roomy := capacity ▸ some
        going := fun _ => rfl
        pushed := fun _ => List.forall_mem_nil _ }
      nobody := fun _ => rfl
      start := rfl
      capacity := capacity }

/-- The application stays idle when a step leaves its yard so. -/
theorem IsIdle.moved (idle : app.IsIdle settings) {yard : Yard Task} (brisk : yard.Brisk)
    (nobody : yard.NobodyWaits) (now : yard.now = app.world.yard.now)
    (capacity : yard.slots.capacity = app.world.yard.slots.capacity)
    (scopes : Listing String ScopeId) (count : Nat) :
    IsIdle settings { app with world := { app.world with
      yard := yard, scopes := scopes, agentCount := count } } where
  ours := idle.ours
  facility := idle.facility
  atRest := ⟨idle.atRest.agents, idle.atRest.unanswered⟩
  brisk := brisk
  nobody := nobody
  start := now.trans idle.start
  capacity := capacity.trans idle.capacity

theorem IsIdle.say (idle : app.IsIdle settings) (level : Level) (text : String) :
    (app.say level text).IsIdle settings :=
  idle.moved (idle.brisk.note _) idle.nobody rfl rfl app.world.scopes app.world.agentCount

/-! ### The steps of the run -/

/-- A step that begins an operation is answered in the end, and leaves the application idle. -/
theorem IsIdle.perform_request (idle : app.IsIdle settings) (step : Step) (start : Yard Task)
    (request : Request Task) (unsaved : World.saveOf step = none)
    (begun : (app.world.asking step).begin none step =
      World.request { app.world.asking step with yard := start } none request)
    (brisk : start.Brisk) (nobody : start.NobodyWaits) (now : start.now = app.world.yard.now)
    (capacity : start.slots.capacity = app.world.yard.slots.capacity) (brief : request.IsBrief)
    (other : ∀ scope, request ≠ .watch scope) : ∃ reply later count,
      start.Serves request reply later ∧ app.perform step =
          (reply.answer, { app with world := { app.world with
            yard := later, agentCount := count } }) ∧
        (app.perform step).2.IsIdle settings := by
  obtain ⟨reply, later, count, serves, performed⟩ :=
    World.perform_request idle.atRest unsaved brisk nobody brief other begun
  have same : app.perform step = (reply.answer, { app with world := { app.world with
      yard := later, agentCount := count } }) := by
    rw [perform, performed]
  obtain ⟨laterBrisk, nobodyLater⟩ := serves.brisk brisk brief nobody other
  have surroundings := (serves.surroundings brisk brief).1
  refine ⟨reply, later, count, serves, same, ?_⟩
  rw [same]
  exact idle.moved laterBrisk nobodyLater
    (((congrArg Yard.Surroundings.now surroundings).trans (Yard.now_prepared request)).trans now)
    (((congrArg Yard.Surroundings.capacity surroundings).trans
      (start.capacity_prepared request).2).trans capacity)
    app.world.scopes count

/-- A step that is answered at once leaves the application idle if it does so to the yard. -/
theorem IsIdle.perform_atOnce (idle : app.IsIdle settings) (step : Step) {answer : Answer}
    (yard : Yard Task) (scopes : Listing String ScopeId)
    (begun : (app.world.asking step).begin none step =
      (.answered answer, { app.world.asking step with yard := yard, scopes := scopes }))
    (brisk : yard.Brisk) (nobody : yard.NobodyWaits) (now : yard.now = app.world.yard.now)
    (capacity : yard.slots.capacity = app.world.yard.slots.capacity) :
    app.perform step = (answer, { app with world := { app.world with
        yard := yard, scopes := scopes, agentCount := app.world.agentCount + 1 } }) ∧
      (app.perform step).2.IsIdle settings := by
  have same : app.perform step = (answer, { app with world := { app.world with
      yard := yard, scopes := scopes, agentCount := app.world.agentCount + 1 } }) := by
    rw [perform, World.perform_of_answered idle.atRest scopes begun]
  refine ⟨same, ?_⟩
  rw [same]
  exact idle.moved brisk nobody now capacity scopes _

theorem IsIdle.perform_openScope (idle : app.IsIdle settings) (name : String) :
    (app.perform (.openScope name .fresh)).2.IsIdle settings :=
  (idle.perform_atOnce _ (app.world.yard.openScope .root).2
    (app.world.scopes.put name (app.world.yard.openScope .root).1) rfl
    (idle.brisk.opened none (by simp)) idle.nobody rfl rfl).2

/-- A step that names a scope which is not there does nothing. -/
theorem IsIdle.perform_nowhere (idle : app.IsIdle settings) {step : Step}
    (begun : (app.world.asking step).begin none step =
      (.answered .nothing, app.world.asking step)) : (app.perform step).2.IsIdle settings :=
  (idle.perform_atOnce step app.world.yard app.world.scopes begun idle.brisk idle.nobody rfl rfl).2

theorem IsIdle.perform_push (idle : app.IsIdle settings) (name : String) {task : Task}
    (brief : task.IsBrief) : (app.perform (.push name task)).2.IsIdle settings := by
  cases named : (app.world.asking (.push name task)).scope? none name with
  | none => exact idle.perform_nowhere (by simp only [World.begin, World.withScope, named])
  | some scope =>
    have pool : (app.world.asking (.push name task)).facility ≠ .backlog := by
      simp [World.asking, idle.facility]
    obtain ⟨answer, pushed⟩ : ∃ answer, (app.world.asking (.push name task)).begin none
        (.push name task) = (.answered answer, { app.world.asking (.push name task) with
          yard := (app.world.yard.push scope task.name task).2
          scopes := app.world.scopes }) := by
      simp only [World.begin, World.withScope, named, World.pushTask, if_neg pool]
      rcases result : (app.world.asking (.push name task)).yard.push scope task.name task with
        ⟨told, later⟩
      have same : (app.world.yard.push scope task.name task).2 = later := congrArg Prod.snd result
      subst same
      cases told <;> exact ⟨_, rfl⟩
    obtain ⟨scopes, backlog, taskCount, journal, -, moved⟩ :=
      Yard.push_eq app.world.yard scope task.name task
    refine (idle.perform_atOnce _ _ _ pushed (idle.brisk.push scope task.name brief)
      ?_ ?_ ?_).2 <;> rw [moved]
    exact idle.nobody

theorem IsIdle.perform_exec (idle : app.IsIdle settings) (name : String) :
    (app.perform (.exec name none)).2.IsIdle settings := by
  cases named : (app.world.asking (.exec name none)).scope? none name with
  | none => exact idle.perform_nowhere (by simp only [World.begin, World.withScope, named])
  | some scope =>
    obtain ⟨_, _, _, -, -, still⟩ := idle.perform_request (.exec name none)
      app.world.yard (.exec scope) rfl (by simp only [World.begin, World.withScope, named]; rfl)
      idle.brisk idle.nobody rfl rfl trivial (by simp)
    exact still

/-! ### The batch -/

theorem IsIdle.pushTask (idle : app.IsIdle settings) (task : String → Task)
    (brief : ∀ name, (task name).IsBrief) : (app.pushTask task).2.IsIdle settings := by
  have still := idle.perform_push "batch" (brief app.nextLabel)
  unfold Application.pushTask
  split
  · next performed =>
    rw [performed] at still
    exact still
  · next performed =>
    rw [performed] at still
    exact IsIdle.say still _ _
  · next performed =>
    rw [performed] at still
    exact still

theorem IsIdle.reportSum (idle : app.IsIdle settings) (outcome : Outcome) (task : TaskId) :
    (Application.reportSum outcome app task).IsIdle settings := by
  unfold Application.reportSum
  split <;> exact idle.say _ _

theorem IsIdle.reportLabel (idle : app.IsIdle settings) (outcome : Outcome) (task : TaskId) :
    (Application.reportLabel outcome app task).IsIdle settings := by
  unfold Application.reportLabel
  split
  · exact idle.say _ _
  · exact idle

theorem IsIdle.reports (idle : app.IsIdle settings) {report : Application → TaskId → Application}
    (still : ∀ app task, IsIdle settings app → (report app task).IsIdle settings)
    (tasks : List TaskId) : (tasks.foldl report app).IsIdle settings := by
  induction tasks generalizing app with
  | nil => exact idle
  | cons task rest inductionHypothesis => exact inductionHypothesis (still app task idle)

theorem IsIdle.reportOutcome (idle : app.IsIdle settings) (sums label : List TaskId)
    (outcome : Outcome) : (app.reportOutcome sums label outcome).IsIdle settings :=
  ((idle.reports (fun _ task idle => idle.reportSum outcome task) sums).reports
    (fun _ task idle => idle.reportLabel outcome task) label).say _ _

/-- The batch is run, whatever comes of it. -/
theorem IsIdle.runBatch (idle : app.IsIdle settings) : app.runBatch.IsIdle settings := by
  have opened := idle.perform_openScope "batch"
  have first := opened.pushTask (fun name => adding name 1 2)
    fun name => isBrief_adding name 1 2
  have second := first.pushTask (fun name => adding name 10 20)
    fun name => isBrief_adding name 10 20
  have third := second.pushTask (fun name => labelling name "批量任务")
    fun name => isBrief_labelling name _
  have executed := third.perform_exec "batch"
  unfold Application.runBatch
  simp only
  split
  · next performed =>
    rw [performed] at executed
    exact executed.reportOutcome _ _ _
  · next performed =>
    rw [performed] at executed
    exact executed.say _ _

/-! ### The run -/

/-- The slots of a pool in which one body has a slot and nobody waits. -/
structure HoldsOne (settings : Settings) (slots : Slots) : Prop where
  obeys : slots.Obeys settings.options
  opened : slots.closed = false
  free : slots.free + 1 = settings.pool.size
  nobody : slots.waiting = 0

/-- The first body of the run gets a slot. -/
theorem greeted (opened : open? settings = .ok app) : ∃ later,
    app.banner.perform (.submit greeting) = (.accepted, later) ∧ later.IsIdle settings ∧
      HoldsOne settings later.world.yard.slots := by
  obtain ⟨idle, places⟩ := isIdle_of_open? opened
  have begun : app.banner.IsIdle settings := ((idle.say _ _).say _ _).say _ _
  have obeys : app.banner.world.yard.slots.Obeys settings.options := Slots.obeys_open? places
  obtain ⟨reply, later, count, serves, same, still⟩ := begun.perform_request (.submit greeting)
    app.banner.world.yard (.submit greeting) rfl rfl begun.brisk begun.nobody rfl rfl
    isBrief_greeting (by simp)
  obtain ⟨turn, slots, decides, entered⟩ := begun.brisk.kept.begin_submit obeys greeting
  have fresh : app.banner.world.yard.slots.closed = false ∧
      app.banner.world.yard.slots.free = settings.pool.size ∧ 0 < settings.pool.size ∧
      app.banner.world.yard.slots.waiting = 0 := by
    show app.world.yard.slots.closed = false ∧ app.world.yard.slots.free = _ ∧ _ ∧
      app.world.yard.slots.waiting = 0
    unfold Slots.open? at places
    split at places
    · cases places
    · next accepted =>
      rw [← Except.ok.inj places]
      exact ⟨rfl, rfl, Nat.pos_of_ne_zero fun none => accepted (.inl none), rfl⟩
  obtain ⟨unclosed, all, some, nobody⟩ := fresh
  cases decides with
  | closed closed =>
    rw [unclosed] at closed
    cases closed
  | saturated _ taken => omega
  | queued _ taken => omega
  | admitted _ atHand =>
    obtain ⟨rfl, rfl⟩ := serves.eq_of_begin entered
    rw [same] at still ⊢
    refine ⟨_, rfl, still, ?_⟩
    exact {
      obeys := obeys.eased ⟨rfl, rfl, rfl, Nat.le_refl _⟩
      opened := unclosed
      free := by
        show app.banner.world.yard.slots.free - 1 + 1 = _
        omega
      nobody := nobody }

/-- A scope is opened that has its time ahead of it. -/
theorem IsIdle.perform_openScope_timeout (idle : app.IsIdle settings) (name : String)
    {span deadline : Duration} (countable : app.world.yard.now.after? span = some deadline)
    (ahead : app.world.yard.now < deadline) : ∃ scope later,
      app.perform (.openScope name (.timeout span)) = (.opened scope, later) ∧
        later.IsIdle settings ∧ later.world.scopes.get? name = some scope ∧
        later.world.yard.slots = app.world.yard.slots := by
  have begun : (app.world.asking (.openScope name (.timeout span))).begin none
      (.openScope name (.timeout span)) =
        (.answered (.opened (app.world.yard.openScope (.rootBefore deadline)).1),
          { app.world.asking (.openScope name (.timeout span)) with
            yard := (app.world.yard.openScope (.rootBefore deadline)).2
            scopes := app.world.scopes.put name
              (app.world.yard.openScope (.rootBefore deadline)).1 }) := by
    simp only [World.begin, World.openNamed, World.namedFor, World.asking, countable]
    rfl
  have brisk := idle.brisk.opened (some deadline) fun moment same =>
    Option.some.inj same ▸ ahead
  obtain ⟨same, still⟩ := idle.perform_atOnce _ _ _ begun brisk idle.nobody rfl rfl
  rw [same] at still
  exact ⟨_, _, same, still, (Listing.get?_put ..).trans (if_pos rfl), rfl⟩

/-- A second lies ahead of the start. -/
theorem after?_second : Duration.zero.after? (.ofSeconds 1) = some (.ofSeconds 1) := by
  have countable : (Duration.zero + .ofSeconds 1).seconds < Duration.momentSeconds := by decide
  rw [Duration.after?, if_pos countable]
  rfl

/-- The single task has its value, unless the settings leave no room for it. -/
theorem IsIdle.runSingle (idle : app.IsIdle settings)
    (holds : HoldsOne settings app.world.yard.slots) :
    app.runSingle.1 =
        (if settings.AreCramped then .error (.submit (.saturated 1)) else .ok ()) ∧
      app.runSingle.2.IsIdle settings := by
  obtain ⟨scope, opened, performed, begun, named, slots⟩ := idle.perform_openScope_timeout
    "single" (idle.start ▸ after?_second) (idle.start ▸ by decide)
  rw [← slots] at holds
  obtain ⟨reply, later, count, serves, same, still⟩ := begun.perform_request
    (.submitTask "single" (adding "single" 3 4)) opened.world.yard
    (.submitTask scope (adding "single" 3 4)) rfl
    (by
      have known : (opened.world.asking (.submitTask "single" (adding "single" 3 4))).scope? none
        "single" = some scope := named
      simp only [World.begin, World.withScope, known]
      rfl)
    begun.brisk begun.nobody rfl rfl (isBrief_adding "single" 3 4) (by simp)
  obtain ⟨turn, after, decides, outcome⟩ := serves.completed begun.brisk begun.nobody
    (isBrief_adding "single" 3 4) rfl holds.obeys holds.opened
  have free := holds.free
  rw [same] at still
  unfold Application.runSingle
  rw [performed]
  simp only [same]
  rcases outcome with ⟨error, rfl, rfl⟩ | ⟨admitted, rfl⟩
  · have cramped : settings.AreCramped ∧ error = .saturated 1 := by
      cases decides with
      | closed closed => simp [holds.opened] at closed
      | saturated _ taken full =>
        have single : settings.pool.size = 1 := by omega
        refine ⟨⟨single, full.resolve_right fun limited => ?_⟩, ?_⟩
        · have nobody := holds.nobody
          omega
        · exact congrArg PoolError.saturated single
    rw [if_pos cramped.1, cramped.2]
    exact ⟨rfl, still⟩
  · have roomy : ¬settings.AreCramped := by
      rintro ⟨single, refuses⟩
      cases decides with
      | closed => exact admitted _ rfl
      | admitted _ atHand => omega
      | saturated => exact admitted _ rfl
      | queued _ _ patient =>
        rw [show settings.options.nonblocking = true from refuses] at patient
        cases patient
    rw [if_neg roomy]
    exact ⟨rfl, IsIdle.say still _ _⟩

theorem IsIdle.reportStatus (idle : app.IsIdle settings) :
    app.reportStatus.IsIdle settings := by
  unfold Application.reportStatus
  exact idle.say _ _

/-- Once the first body has its slot, the run comes to what the single task comes to. -/
theorem run_of_greeted {later : Application}
    (greeted : app.banner.perform (.submit greeting) = (.accepted, later)) :
    app.run = match later.runSingle with
      | (.error error, last) => (.error (.task error), last)
      | (.ok (), last) => (.ok (), last.runBatch.reportStatus) := by
  unfold Application.run
  exact greeted ▸ rfl

/-- The run succeeds unless the settings leave no room for it, and leaves the application idle. -/
theorem ran (opened : open? settings = .ok app) :
    app.run.1 =
        (if settings.AreCramped then .error (.task (.submit (.saturated 1))) else .ok ()) ∧
      app.run.2.IsIdle settings := by
  obtain ⟨later, greeted, idle, holds⟩ := greeted opened
  obtain ⟨answer, still⟩ := idle.runSingle holds
  rw [run_of_greeted greeted]
  rcases single : later.runSingle with ⟨result, last⟩
  rw [single] at answer still
  simp only at answer still
  subst answer
  by_cases cramped : settings.AreCramped
  · rw [if_pos cramped, if_pos cramped]
    exact ⟨rfl, still⟩
  · rw [if_neg cramped, if_neg cramped]
    exact ⟨rfl, still.runBatch.reportStatus⟩

/-! ### The shutdown -/

/-- Where nobody waits and every body is over, every slot is free. -/
theorem IsIdle.status_of_vacant (idle : app.IsIdle settings)
    (vacant : app.world.yard.jobs = []) : app.status = .pool 0 settings.pool.size 0 := by
  have inOrder := idle.brisk.kept.inOrder
  have unparked : app.world.yard.slots.parked = [] := by
    refine List.eq_nil_iff_forall_not_mem.mpr fun id member => ?_
    obtain ⟨call, found, -⟩ := (inOrder.parked id (by simp)).mp member
    rw [idle.nobody id] at found
    cases found
  have running : app.world.yard.slots.running = 0 := inOrder.staffed.trans (by simp [vacant])
  have waiting : app.world.yard.slots.waiting = 0 :=
    inOrder.slots.counted.trans (by simp [unparked])
  rw [status, idle.facility, Facility.status, running, waiting, idle.capacity]

theorem shutdown_of_accepted {later : Application}
    (accepted : app.perform (.releaseTimeout patience) = (.accepted, later)) :
    app.shutdown = (.ok (), later.say .info "✅ 任务池已关闭") := by
  unfold Application.shutdown
  rw [accepted]

theorem hasPassed_patience {yard : Yard Task} (start : yard.now = .zero) :
    yard.hasPassed (yard.now.after? patience) = false := by
  rw [Yard.hasPassed, start]
  decide

/-- A shutdown sees every body end, and leaves nobody behind. -/
theorem IsIdle.shutdown (idle : app.IsIdle settings) :
    app.shutdown.1 = .ok () ∧ app.shutdown.2.status = .pool 0 settings.pool.size 0 := by
  have brisk := idle.brisk.release
  have pool : (app.world.asking (.releaseTimeout patience)).facility ≠ .slots := by
    simp [World.asking, idle.facility]
  obtain ⟨reply, later, count, serves, same, still⟩ := idle.perform_request
    (.releaseTimeout patience) app.world.yard.release (.drain patience) rfl
    (by simp only [World.begin, if_neg pool]; rfl) brisk idle.nobody rfl rfl trivial (by simp)
  have start : app.world.yard.release.now = .zero := idle.start
  obtain ⟨rfl, vacant⟩ := serves.drained brisk idle.nobody (hasPassed_patience start)
  rw [same] at still
  rw [shutdown_of_accepted same]
  exact ⟨rfl, (IsIdle.say still _ _).status_of_vacant vacant⟩

/-! ### The whole work -/

/-- What comes of the work of an application that has just been opened. -/
structure Works (settings : Settings) (app : Application) : Prop where
  /-- The run succeeds, unless the settings leave no room for a second body. -/
  runs : app.run.1 =
    if settings.AreCramped then .error (.task (.submit (.saturated 1))) else .ok ()
  /-- Whatever came of the run, the shutdown succeeds. -/
  shutsDown : app.run.2.shutdown.1 = .ok ()
  /-- Then no body runs and nobody waits. -/
  vacant : app.run.2.shutdown.2.status = .pool 0 settings.pool.size 0

/-- An application does its work under all settings under which it can be opened. -/
theorem works (opened : open? settings = .ok app) : Works settings app := by
  obtain ⟨runs, idle⟩ := ran opened
  obtain ⟨shutsDown, vacant⟩ := idle.shutdown
  exact ⟨runs, shutsDown, vacant⟩

/-- One slot, for which others may queue. -/
def narrow : Settings := { Settings.default with pool := ⟨1, 0, false, 1⟩ }

/-- The work of one application gets by with one slot, one that may queue, and no time for a
batch. -/
theorem works_narrow : ∃ app, open? narrow = .ok app ∧ Works narrow app :=
  ⟨_, rfl, works rfl⟩

/-- One slot, for which nobody may queue. -/
def cramped : Settings := { Settings.default with pool := ⟨1, 10000, true, 0⟩ }

/-- The single task finds the slot taken by a body that has not had its turn, and is refused. -/
theorem run_cramped : ∃ app, open? cramped = .ok app ∧
    app.run.1 = .error (.task (.submit (.saturated 1))) :=
  ⟨_, rfl, (@ran _ cramped rfl).1.trans (if_pos ⟨rfl, rfl⟩)⟩

end Application

end Taskyard

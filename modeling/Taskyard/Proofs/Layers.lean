/-
This file says what the settings are that the program starts with. Three layers
decide about every field by itself: its variable in the environment, what the
document has for it, and its default. The document comes from the file that the
environment names; if that leads nowhere there is none, which is as good as an
empty one. A file that cannot be read or does not decode is the answer before any
other variable is looked at, and of the four variables with a grammar the first
that does not fit it.
-/

import Mathlib
import Taskyard.Proofs.Decoding
import Taskyard.Settings.Load

namespace Taskyard.Settings

open Toml (Value)

variable {Item : Type}

/-! ### Variables -/

/-- A variable with a grammar. -/
structure Variable where
  name : String
  expected : Expected
  accepts : String → Bool

/-- The variables with a grammar, in the order in which they are read. -/
def knownVariables : List Variable :=
  [⟨"POOL_SIZE", .size, fun text => (readWord? text).isSome⟩,
    ⟨"POOL_TASK_TIMEOUT_MS", .word, fun text => (readWord? text).isSome⟩,
    ⟨"POOL_NONBLOCKING", .flag, fun text => (readFlag? text).isSome⟩,
    ⟨"POOL_MAX_BLOCKING_TASKS", .size, fun text => (readWord? text).isSome⟩]

/-- The error of a variable that is set and does not fit its grammar. -/
def Variable.misfit? (read : Variable) (environment : Environment) : Option ConfigError :=
  match environment.get? read.name with
  | none => none
  | some text =>
    if read.accepts text then none else some (.badVariable read.name text read.expected)

variable {environment : Environment} {system : FileSystem} {table : Toml.Table}

/-- Reading a variable and going on with its value, if it is set. -/
theorem readVariable_bind {Result : Type} (environment : Environment) (name : String)
    (expected : Expected) (read? : String → Option Item)
    (next : Option Item → Except ConfigError Result) :
    (readVariable environment name expected read? >>= next) =
      match Variable.misfit? ⟨name, expected, fun text => (read? text).isSome⟩ environment with
      | some error => .error error
      | none => next ((environment.get? name).bind read?) := by
  rw [readVariable, Variable.misfit?]
  cases environment.get? name with
  | none => rfl
  | some text =>
    cases read : read? text with
    | none => simp [read, bind, Except.bind]
    | some item => simp [read, bind, Except.bind]

/-- The settings with the variables in place of what they said, if all of these fit. -/
def overridden (settings : Settings) (environment : Environment) : Settings where
  pool := {
    size := ((environment.get? "POOL_SIZE").bind readWord?).getD settings.pool.size
    timeoutMillis :=
      ((environment.get? "POOL_TASK_TIMEOUT_MS").bind readWord?).getD settings.pool.timeoutMillis
    nonblocking :=
      ((environment.get? "POOL_NONBLOCKING").bind readFlag?).getD settings.pool.nonblocking
    queueLimit :=
      ((environment.get? "POOL_MAX_BLOCKING_TASKS").bind readWord?).getD settings.pool.queueLimit }
  log := {
    level := (environment.get? "LOG_LEVEL").getD settings.log.level
    file := (environment.get? "LOG_FILE").or settings.log.file }

/-- The first variable that does not fit is the error, and no other is. -/
theorem overriddenBy_eq (settings : Settings) (environment : Environment) :
    settings.overriddenBy environment =
      match knownVariables.findSome? (·.misfit? environment) with
      | some error => .error error
      | none => .ok (settings.overridden environment) := by
  rw [overriddenBy]
  simp only [readVariable_bind, knownVariables, List.findSome?_cons, List.findSome?_nil]
  split
  · next error misfit => simp only [misfit]
  next size =>
  split
  · next error misfit => simp only [size, misfit]
  next timeout =>
  split
  · next error misfit => simp only [size, timeout, misfit]
  next nonblocking =>
  split
  · next error misfit => simp only [size, timeout, nonblocking, misfit]
  · next queueLimit =>
    simp only [size, timeout, nonblocking, queueLimit]
    rfl

/-! ### Three layers -/

/-- What a field is: the value of its variable if that is set, or else what the document has for it,
or else its default. -/
inductive Layered (override? : Option String) (read? : String → Option Item)
    (found : Option Value) (decode? : Value → Option Item) (otherwise : Item) : Item → Prop
  | ofVariable {text : String} {item : Item} (set : override? = some text)
      (read : read? text = some item) : Layered override? read? found decode? otherwise item
  | ofDocument {value : Value} {item : Item} (unset : override? = none)
      (written : found = some value) (decoded : decode? value = some item) :
      Layered override? read? found decode? otherwise item
  | byDefault (unset : override? = none) (unwritten : found = none) :
      Layered override? read? found decode? otherwise otherwise

theorem layered_iff {override? : Option String} {read? : String → Option Item}
    {found : Option Value} {decode? : Value → Option Item}
    (fits : IsReadableBy override? read?) (decodes : IsReadableBy found decode?)
    (otherwise item : Item) :
    Layered override? read? found decode? otherwise item ↔
      item = (override?.bind read?).getD ((found.bind decode?).getD otherwise) := by
  constructor
  · rintro (⟨set, read⟩ | ⟨unset, written, decoded⟩ | ⟨unset, unwritten⟩)
    · rw [set, Option.bind_some, read, Option.getD_some]
    · rw [unset, written, Option.bind_some, decoded]
      rfl
    · rw [unset, unwritten]
      rfl
  · rintro rfl
    cases set : override? with
    | some text =>
      obtain ⟨item, read⟩ := Option.isSome_iff_exists.mp (fits text set)
      rw [Option.bind_some, read, Option.getD_some]
      exact .ofVariable rfl read
    | none =>
      cases written : found with
      | none => exact .byDefault rfl rfl
      | some value =>
        obtain ⟨item, decoded⟩ := Option.isSome_iff_exists.mp (decodes value written)
        rw [Option.bind_some, decoded]
        exact .ofDocument rfl rfl decoded

/-- What every field of the settings is, in an environment and with a document. -/
@[mk_iff]
structure AreLayered (environment : Environment) (table : Toml.Table) (settings : Settings) :
    Prop where
  size : Layered (environment.get? "POOL_SIZE") readWord?
    (fieldOf? table "pool" 0 "size") word? 10 settings.pool.size
  timeout : Layered (environment.get? "POOL_TASK_TIMEOUT_MS") readWord?
    (fieldOf? table "pool" 1 "task_timeout_ms") word? 10000 settings.pool.timeoutMillis
  nonblocking : Layered (environment.get? "POOL_NONBLOCKING") readFlag?
    (fieldOf? table "pool" 2 "nonblocking") flag? false settings.pool.nonblocking
  queueLimit : Layered (environment.get? "POOL_MAX_BLOCKING_TASKS") readWord?
    (fieldOf? table "pool" 3 "max_blocking_tasks") word? 0 settings.pool.queueLimit
  level : Layered (environment.get? "LOG_LEVEL") some
    (fieldOf? table "log" 0 "level") text? "info" settings.log.level
  file : Layered (environment.get? "LOG_FILE") (some ∘ some)
    (fieldOf? table "log" 1 "file") (fun value => (text? value).map some) none settings.log.file

theorem isReadableBy_of_fit (name : String) (expected : Expected) (read? : String → Option Item)
    (fit : knownVariables.findSome? (·.misfit? environment) = none)
    (member : ⟨name, expected, fun text => (read? text).isSome⟩ ∈ knownVariables) :
    IsReadableBy (environment.get? name) read? := by
  intro text set
  have fitting := List.findSome?_eq_none_iff.mp fit _ member
  cases read : read? text with
  | some item => rfl
  | none => simp [Variable.misfit?, set, read] at fitting

theorem eq_iff {first second : Settings} : first = second ↔
    first.pool.size = second.pool.size ∧ first.pool.timeoutMillis = second.pool.timeoutMillis ∧
      first.pool.nonblocking = second.pool.nonblocking ∧
      first.pool.queueLimit = second.pool.queueLimit ∧ first.log.level = second.log.level ∧
      first.log.file = second.log.file := by
  obtain ⟨⟨_, _, _, _⟩, _, _⟩ := first
  obtain ⟨⟨_, _, _, _⟩, _, _⟩ := second
  simp [and_assoc]

/-- If every variable fits and the document decodes, the settings with these layers are those that
the variables make of what the document describes. -/
theorem areLayered_iff_eq {settings : Settings} (decodes : Decodes table)
    (fit : knownVariables.findSome? (·.misfit? environment) = none) :
    AreLayered environment table settings ↔
      settings = (described table).overridden environment := by
  have size := layered_iff
    (isReadableBy_of_fit "POOL_SIZE" .size readWord? fit (by simp [knownVariables])) decodes.size
  have timeout := layered_iff
    (isReadableBy_of_fit "POOL_TASK_TIMEOUT_MS" .word readWord? fit (by simp [knownVariables]))
    decodes.timeout
  have nonblocking := layered_iff
    (isReadableBy_of_fit "POOL_NONBLOCKING" .flag readFlag? fit (by simp [knownVariables]))
    decodes.nonblocking
  have queueLimit := layered_iff
    (isReadableBy_of_fit "POOL_MAX_BLOCKING_TASKS" .size readWord? fit (by simp [knownVariables]))
    decodes.queueLimit
  have anyLevel : IsReadableBy (environment.get? "LOG_LEVEL") some := fun _ _ => rfl
  have anyFile : IsReadableBy (environment.get? "LOG_FILE") (some ∘ some) := fun _ _ => rfl
  have fileDecodes : IsReadableBy (fieldOf? table "log" 1 "file")
      (fun value => (text? value).map some) := by
    simpa [IsReadableBy] using decodes.file
  have overlaid : ∀ found : Option String,
      ((environment.get? "LOG_FILE").bind (some ∘ some)).getD found =
        (environment.get? "LOG_FILE").or found := fun found => by
    cases environment.get? "LOG_FILE" <;> rfl
  rw [areLayered_iff, eq_iff, size, timeout, nonblocking, queueLimit,
    layered_iff anyLevel decodes.level, layered_iff anyFile fileDecodes, getD_bind_text?, overlaid,
    Option.bind_fun_some]
  rfl

/-! ### Loading -/

/-- The document that the settings are read from. No file is as good as an empty one. -/
inductive IsBase (environment : Environment) (system : FileSystem) : Toml.Table → Prop
  | missing (nowhere : system.pathExists (pathIn environment) = false) :
      IsBase environment system (.empty .defined)
  | written {document : String} {table : Toml.Table}
      (found : system.pathExists (pathIn environment) = true)
      (read : system.readText (pathIn environment) = .ok document)
      (parsed : Toml.parse? document = some table) (decodes : Decodes table) :
      IsBase environment system table

/-- What loading the settings answers. -/
inductive Loads (environment : Environment) (system : FileSystem) : Except ConfigError Settings → Prop
  /-- The path leads somewhere, but no text can be read there. -/
  | unreadable {error : FileError} (found : system.pathExists (pathIn environment) = true)
      (failed : system.readText (pathIn environment) = .error error) :
      Loads environment system (.error (.unreadable (pathIn environment) error.report))
  /-- The text there is no document, or one that does not decode. -/
  | malformed {document : String} (found : system.pathExists (pathIn environment) = true)
      (read : system.readText (pathIn environment) = .ok document)
      (undecodable : ∀ table, Toml.parse? document = some table → ¬Decodes table) :
      Loads environment system (.error (.malformed (pathIn environment)))
  /-- There is a variable that does not fit its grammar; this is about the first. -/
  | misfit {table : Toml.Table} {error : ConfigError} (base : IsBase environment system table)
      (first : knownVariables.findSome? (·.misfit? environment) = some error) :
      Loads environment system (.error error)
  | loaded {table : Toml.Table} {settings : Settings} (base : IsBase environment system table)
      (fit : knownVariables.findSome? (·.misfit? environment) = none)
      (layered : AreLayered environment table settings) : Loads environment system (.ok settings)

theorem decodes_empty : Decodes (.empty .defined) := by
  constructor <;> simp [Toml.Table.empty, Toml.Table.get?, Listing.get?, IsReadableBy, fieldOf?]

theorem IsBase.decodes (base : IsBase environment system table) : Decodes table := by
  cases base with
  | missing => exact decodes_empty
  | written _ _ _ decodes => exact decodes

theorem base_eq (base : IsBase environment system table) :
    Settings.base environment system = .ok (described table) := by
  cases base with
  | missing nowhere =>
    rw [Settings.base, nowhere]
    rfl
  | written found read parsed decodes =>
    have known := ofEntries_sections_iff.mpr ⟨decodes, rfl⟩
    simp [Settings.base, found, ofFile, read, ofDocument, ofDocument?, parsed, known]

/-- Every answer is one of these. -/
theorem loads (environment : Environment) (system : FileSystem) :
    Loads environment system (load environment system) := by
  have goesOn : ∀ {table}, IsBase environment system table →
      Loads environment system (load environment system) := fun {table} base => by
    rw [load, base_eq base]
    show Loads environment system ((described table).overriddenBy environment)
    rw [overriddenBy_eq]
    cases first : knownVariables.findSome? (·.misfit? environment) with
    | some error => exact .misfit base first
    | none => exact .loaded base first ((areLayered_iff_eq base.decodes first).mpr rfl)
  cases found : system.pathExists (pathIn environment) with
  | false => exact goesOn (.missing found)
  | true =>
    cases read : system.readText (pathIn environment) with
    | error error =>
      have stops : load environment system =
          .error (.unreadable (pathIn environment) error.report) := by
        simp [load, Settings.base, found, ofFile, read, bind, Except.bind]
      rw [stops]
      exact .unreadable found read
    | ok document =>
      by_cases decodes : ∃ table, Toml.parse? document = some table ∧ Decodes table
      · obtain ⟨table, parsed, decodes⟩ := decodes
        exact goesOn (.written found read parsed decodes)
      · have undecodable : ∀ table, Toml.parse? document = some table → ¬Decodes table :=
          fun table parsed decoded => decodes ⟨table, parsed, decoded⟩
        have unread : ofDocument? document = none := by
          rw [Option.eq_none_iff_forall_ne_some]
          intro settings known
          obtain ⟨table, parsed, known⟩ := Option.bind_eq_some_iff.mp known
          exact undecodable table parsed (ofEntries_sections_iff.mp known).1
        have stops : load environment system = .error (.malformed (pathIn environment)) := by
          simp [load, Settings.base, found, ofFile, read, ofDocument, unread, bind, Except.bind]
        rw [stops]
        exact .malformed found read undecodable

theorem IsBase.unique {other : Toml.Table} (base : IsBase environment system table)
    (also : IsBase environment system other) : table = other := by
  cases base with
  | missing nowhere =>
    cases also with
    | missing => rfl
    | written found => simp [nowhere] at found
  | written found read parsed =>
    cases also with
    | missing nowhere => simp [nowhere] at found
    | written _ readAgain parsedAgain =>
      rw [read] at readAgain
      cases readAgain
      rw [parsed] at parsedAgain
      exact Option.some.inj parsedAgain

/-- If the path leads somewhere the document was read there, and it decodes. -/
theorem IsBase.readable (base : IsBase environment system table)
    (found : system.pathExists (pathIn environment) = true) :
    ∃ document, system.readText (pathIn environment) = .ok document ∧
      Toml.parse? document = some table ∧ Decodes table := by
  cases base with
  | missing nowhere => simp [nowhere] at found
  | written _ read parsed decodes => exact ⟨_, read, parsed, decodes⟩

/-- A file that cannot be read holds no document. -/
theorem not_isBase_of_unreadable {error : FileError}
    (found : system.pathExists (pathIn environment) = true)
    (failed : system.readText (pathIn environment) = .error error) :
    ¬IsBase environment system table := fun base => by
  obtain ⟨_, read, -⟩ := base.readable found
  rw [failed] at read
  cases read

theorem not_isBase_of_undecodable {document : String}
    (found : system.pathExists (pathIn environment) = true)
    (read : system.readText (pathIn environment) = .ok document)
    (undecodable : ∀ table, Toml.parse? document = some table → ¬Decodes table) :
    ¬IsBase environment system table := fun base => by
  obtain ⟨_, readAgain, parsed, decodes⟩ := base.readable found
  rw [read] at readAgain
  cases readAgain
  exact undecodable _ parsed decodes

/-- The answer is determined by this. -/
theorem Loads.unique {answer other : Except ConfigError Settings}
    (loads : Loads environment system answer) (also : Loads environment system other) :
    answer = other := by
  cases loads with
  | unreadable found failed =>
    cases also with
    | unreadable _ failedAgain =>
      rw [failed] at failedAgain
      cases failedAgain
      rfl
    | malformed _ read =>
      rw [failed] at read
      cases read
    | misfit base | loaded base => exact (not_isBase_of_unreadable found failed base).elim
  | malformed found read undecodable =>
    cases also with
    | unreadable _ failed =>
      rw [read] at failed
      cases failed
    | malformed => rfl
    | misfit base | loaded base =>
      exact (not_isBase_of_undecodable found read undecodable base).elim
  | misfit base first =>
    cases also with
    | unreadable found failed => exact (not_isBase_of_unreadable found failed base).elim
    | malformed found read undecodable =>
      exact (not_isBase_of_undecodable found read undecodable base).elim
    | misfit _ again =>
      rw [first] at again
      cases again
      rfl
    | loaded _ fit =>
      rw [first] at fit
      cases fit
  | loaded base fit layered =>
    cases also with
    | unreadable found failed => exact (not_isBase_of_unreadable found failed base).elim
    | malformed found read undecodable =>
      exact (not_isBase_of_undecodable found read undecodable base).elim
    | misfit _ first =>
      rw [fit] at first
      cases first
    | loaded again _ layeredAgain =>
      cases base.unique again
      rw [(areLayered_iff_eq base.decodes fit).mp layered,
        (areLayered_iff_eq base.decodes fit).mp layeredAgain]

/-! ### Numbers -/

theorem word?_lt {value : Value} {number : Nat} (read : word? value = some number) :
    number < Text.wordBound := by
  cases value with
  | integer whole =>
    simp only [word?, Option.ite_none_right_eq_some] at read
    obtain ⟨⟨nonneg, inRange⟩, same⟩ := read
    cases same
    omega
  | _ => cases read

theorem readDigits?_lt {digits : List Char} {number : Nat}
    (read : readDigits? digits = some number) : number < Text.wordBound := by
  simp only [readDigits?, Option.ite_none_left_eq_some, Option.ite_none_right_eq_some] at read
  obtain ⟨-, inRange, same⟩ := read
  cases same
  exact inRange

theorem readWord?_lt {text : String} {number : Nat} (read : readWord? text = some number) :
    number < Text.wordBound := by
  unfold readWord? at read
  split at read <;> exact readDigits?_lt read

/-- A number of any layer fits 64 bits, as its default does. -/
theorem Layered.lt {override? : Option String} {found : Option Value} {otherwise number : Nat}
    (layered : Layered override? readWord? found word? otherwise number)
    (fits : otherwise < Text.wordBound) : number < Text.wordBound := by
  cases layered with
  | ofVariable _ read => exact readWord?_lt read
  | ofDocument _ _ decoded => exact word?_lt decoded
  | byDefault => exact fits

/-- Whether the options are those that the settings name: the length of time in whole seconds and
the rest of the milliseconds. -/
structure Carried (settings : Settings) (options : Options) : Prop where
  capacity : options.capacity = settings.pool.size
  nonblocking : options.nonblocking = settings.pool.nonblocking
  queueLimit : options.queueLimit = settings.pool.queueLimit
  seconds : options.taskTimeout.seconds = settings.pool.timeoutMillis / 1000
  subseconds : options.taskTimeout.subseconds = settings.pool.timeoutMillis % 1000 * 1000000
  millis : options.taskTimeout.millis = settings.pool.timeoutMillis

theorem carried (settings : Settings) : settings.Carried settings.options where
  capacity := rfl
  nonblocking := rfl
  queueLimit := rfl
  seconds := by
    simp only [options, Duration.ofMillis, Duration.seconds]
    omega
  subseconds := by
    simp only [options, Duration.ofMillis, Duration.subseconds]
    omega
  millis := by
    simp only [options, Duration.ofMillis, Duration.millis]
    omega

/-- What is promised of the settings that the program starts with. -/
structure ComeInLayers (environment : Environment) (system : FileSystem) : Prop where
  /-- Loading gives this answer and no other. -/
  loads : ∀ answer, load environment system = answer ↔ Loads environment system answer
  /-- No number wraps around. -/
  words : ∀ settings, load environment system = .ok settings →
    settings.pool.size < Text.wordBound ∧ settings.pool.timeoutMillis < Text.wordBound ∧
      settings.pool.queueLimit < Text.wordBound
  /-- The pool is opened with what the settings say. -/
  carried : ∀ settings : Settings, settings.Carried settings.options

theorem comeInLayers (environment : Environment) (system : FileSystem) :
    ComeInLayers environment system where
  loads answer := by
    refine ⟨fun same => same ▸ loads environment system, fun told => ?_⟩
    exact (loads environment system).unique told
  words settings loaded := by
    have told := loads environment system
    rw [loaded] at told
    cases told with
    | loaded base fit layered =>
      have bound : 10000 < Text.wordBound := by decide
      exact ⟨layered.size.lt (by decide), layered.timeout.lt bound,
        layered.queueLimit.lt (by decide)⟩
  carried := carried

/-- What a document has under a key of a section that is a table. -/
def keyed? (table : Toml.Table) (part key : String) : Option Value :=
  match table.get? part with
  | some (.table _ entries) => Listing.get? key entries
  | _ => none

/-- An environment that names a file, and that file, in which the section about the pool is an
array. -/
def namingFile : Environment := ⟨[("CONFIG_FILE", "c".toUTF8)]⟩

def arrayFile : Files := ⟨[], [(["c"], .file "pool = [5]".toUTF8)]⟩

theorem readText_arrayFile : arrayFile.system.pathExists "c" = true ∧
    arrayFile.system.readText "c" = .ok "pool = [5]" := by
  have within : ¬Files.pathLimit < "c".utf8ByteSize := by decide
  have usable : Files.checkPath "c" = .ok () := by
    rw [Files.checkPath, if_neg (by decide), if_neg (by decide), if_neg within]
  have slash : "c".startsWith "/" = false := by cbv
  have origin : arrayFile.origin "c" = [] := by
    rw [Files.origin, slash]
    rfl
  have step : "c".splitOn "/" = ["c"] := by
    rw [String.splitOn, if_neg (by decide), String.splitOnAux, if_neg (by decide),
      if_neg (by decide), String.splitOnAux, if_pos (by decide)]
    decide
  have leads : arrayFile.resolve "c" = .ok ["c"] := by
    rw [Files.resolve, usable, origin, step]
    rfl
  have bytes : arrayFile.system.readBytes "c" = .ok "pool = [5]".toUTF8 := by
    show arrayFile.readBytes "c" = _
    rw [Files.readBytes, leads]
    rfl
  refine ⟨congrArg Except.isOk leads, ?_⟩
  simp only [FileSystem.readText, bytes]
  rfl

/-- A section that is an array has no keys, and yet it decides about its fields. -/
theorem exists_unkeyed : ∃ table settings, IsBase namingFile arrayFile.system table ∧
    load namingFile arrayFile.system = .ok settings ∧ settings.pool.size = 5 ∧
    ¬Layered (namingFile.get? "POOL_SIZE") readWord? (keyed? table "pool" "size") word? 10
      settings.pool.size := by
  obtain ⟨found, read⟩ := readText_arrayFile
  have path : pathIn namingFile = "c" := by cbv
  rw [← path] at found read
  have parsed : Toml.parse? "pool = [5]" =
      some ⟨.defined, [("pool", .array false [.integer 5])]⟩ := by cbv
  have decoded : ofEntries sections [("pool", .array false [.integer 5])] default =
      some ⟨⟨5, 10000, false, 0⟩, defaultLog⟩ := by rfl
  have base : IsBase namingFile arrayFile.system ⟨.defined, [("pool", .array false [.integer 5])]⟩ :=
    .written found read parsed (ofEntries_sections_iff.mp decoded).1
  refine ⟨_, ⟨⟨5, 10000, false, 0⟩, defaultLog⟩, base, ?_, rfl, ?_⟩
  · rw [load, base_eq base, ← (ofEntries_sections_iff.mp decoded).2]
    rfl
  · intro layered
    have unset : namingFile.get? "POOL_SIZE" = none := rfl
    rw [unset] at layered
    cases layered with
    | ofVariable set => cases set
    | ofDocument _ written => cases written

end Taskyard.Settings

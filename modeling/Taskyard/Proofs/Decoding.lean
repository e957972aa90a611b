/-
This file says what a document of settings describes. A field has the value that
stands under its key in its section, or its default; a document decodes if its
sections are sections and every field that it sets has the right type, and is
read exactly then. Keys without a meaning are passed over.

A section may also be an array. It has no keys then, and the fields of the
section take the values at their places.
-/

import Taskyard.Settings.Document

namespace Taskyard.Settings

open Toml (Value)

variable {Section Written Item : Type}

/-! ### What is written somewhere, or not -/

/-- The item that is written, or another one if nothing is; what is written has to be readable. -/
def settle (found : Option Written) (read? : Written → Option Item) (otherwise : Item) :
    Option Item :=
  match found with
  | none => some otherwise
  | some written => read? written

/-- Whether what is written can be read, if anything is. -/
def IsReadableBy (found : Option Written) (read? : Written → Option Item) : Prop :=
  ∀ written, found = some written → (read? written).isSome

theorem settle_eq_some_iff {found : Option Written} {read? : Written → Option Item}
    {otherwise item : Item} : settle found read? otherwise = some item ↔
      IsReadableBy found read? ∧ item = (found.bind read?).getD otherwise := by
  cases found with
  | none =>
    refine ⟨fun same => ⟨fun _ absent => (Option.some_ne_none _ absent.symm).elim, ?_⟩, ?_⟩
    · exact (Option.some.inj same).symm
    · rintro ⟨-, rfl⟩
      rfl
  | some written =>
    rw [settle, Option.bind_some]
    constructor
    · intro known
      refine ⟨fun other same => ?_, by rw [known, Option.getD_some]⟩
      rw [← Option.some.inj same, known, Option.isSome_some]
    · rintro ⟨readable, rfl⟩
      obtain ⟨read, known⟩ := Option.isSome_iff_exists.mp (readable written rfl)
      rw [known, Option.getD_some]

/-! ### Sections of a document -/

/-- What a section has under a key or, if it is an array, at the place of the key. -/
def item? (place : Nat) (key : String) : Value → Option Value
  | .table _ entries => Listing.get? key entries
  | .array _ items => items[place]?
  | _ => none

/-- Whether a value may stand for a section with these keys. What a table has under other keys is
passed over as long as its numbers are numbers. -/
def IsSection (keys : List String) : Value → Prop
  | .table _ entries => ∀ entry ∈ entries, entry.1 ∈ keys ∨ entry.2.inRange = true
  | .array _ _ | .moment => True
  | _ => False

/-- A section from what is found under its keys, the first of which has this place. -/
def ofFound (found : Nat → String → Option Value) : Nat → Keys Section → Section → Option Section
  | _, [], settings => some settings
  | place, key :: keys, settings =>
    (settle (found place key.1) (key.2 · settings) settings).bind (ofFound found (place + 1) keys)

theorem foldlM_applyKey (entries : Listing String Value) (keys : Keys Section) (place : Nat)
    (settings : Section) : keys.foldlM (applyKey entries) settings =
      ofFound (fun _ key => entries.get? key) place keys settings := by
  induction keys generalizing place settings with
  | nil => rfl
  | cons key keys inductionHypothesis =>
    rw [List.foldlM_cons, ofFound]
    have same : applyKey entries settings key =
        settle (entries.get? key.1) (key.2 · settings) settings := by
      unfold applyKey settle
      cases entries.get? key.1 <;> rfl
    rw [same]
    exact congrArg _ (funext fun held => inductionHypothesis (place + 1) held)

theorem ofItems_drop (items : List Value) (keys : Keys Section) (place : Nat)
    (settings : Section) : ofItems keys (items.drop place) settings =
      ofFound (fun place _ => items[place]?) place keys settings := by
  induction keys generalizing place settings with
  | nil => simp [ofItems, ofFound]
  | cons key keys inductionHypothesis =>
    rw [ofFound]
    rcases Nat.lt_or_ge place items.length with inside | outside
    · rw [List.drop_eq_getElem_cons inside, ofItems, List.getElem?_eq_getElem inside, settle]
      exact congrArg _ (funext fun held => inductionHypothesis (place + 1) held)
    · have later := inductionHypothesis (place + 1) settings
      rw [List.drop_eq_nil_of_le (Nat.le_succ_of_le outside)] at later
      rw [List.drop_eq_nil_of_le outside, List.getElem?_eq_none outside, settle, Option.bind_some,
        ← later]
      cases keys <;> rfl

theorem ofFound_nothing (place : Nat) (keys : Keys Section) (settings : Section) :
    ofFound (fun _ _ => none) place keys settings = some settings := by
  induction keys generalizing place with
  | nil => rfl
  | cons key keys inductionHypothesis => exact inductionHypothesis (place + 1)

theorem all_isReadable_iff {keys : Keys Section} {entries : Listing String Value} :
    entries.all (isReadable keys) = true ↔
      ∀ entry ∈ entries, entry.1 ∈ keys.keys ∨ entry.2.inRange = true := by
  simp only [List.all_eq_true, isReadable, Bool.or_eq_true, Listing.get?_isSome_iff]

/-- A section is read key by key, whichever way it is written. -/
theorem ofValue_eq_some_iff {keys : Keys Section} {value : Value} {settings result : Section} :
    ofValue keys value settings = some result ↔ IsSection keys.keys value ∧
      ofFound (fun place key => item? place key value) 0 keys settings = some result := by
  cases value with
  | table standing entries =>
    rw [ofValue, ofEntries, IsSection, ← all_isReadable_iff]
    split
    · next readable => simp only [readable, true_and, foldlM_applyKey entries keys 0, item?]
    · next unreadable => simp [unreadable]
  | array ofTables items =>
    have read := ofItems_drop items keys 0 settings
    rw [List.drop_zero] at read
    simp only [ofValue, IsSection, true_and, read, item?]
  | moment => simp only [ofValue, IsSection, true_and, item?, ofFound_nothing]
  | _ => simp [ofValue, IsSection]

/-! ### What a document describes -/

/-- What a document has for a field: under its key, or at its place. -/
def fieldOf? (table : Toml.Table) (part : String) (place : Nat) (key : String) : Option Value :=
  (table.get? part).bind (item? place key)

/-- When a document decodes: it has sections where they belong, and fields of the right type. -/
structure Decodes (table : Toml.Table) : Prop where
  passedOver : ∀ entry ∈ table.entries, entry.1 ∈ ["pool", "log"] ∨ entry.2.inRange = true
  pool : ∀ value, table.get? "pool" = some value →
    IsSection ["size", "task_timeout_ms", "nonblocking", "max_blocking_tasks"] value
  log : ∀ value, table.get? "log" = some value → IsSection ["level", "file"] value
  size : IsReadableBy (fieldOf? table "pool" 0 "size") word?
  timeout : IsReadableBy (fieldOf? table "pool" 1 "task_timeout_ms") word?
  nonblocking : IsReadableBy (fieldOf? table "pool" 2 "nonblocking") flag?
  queueLimit : IsReadableBy (fieldOf? table "pool" 3 "max_blocking_tasks") word?
  level : IsReadableBy (fieldOf? table "log" 0 "level") text?
  file : IsReadableBy (fieldOf? table "log" 1 "file") text?

/-- The settings that a document describes. -/
def described (table : Toml.Table) : Settings where
  pool := {
    size := ((fieldOf? table "pool" 0 "size").bind word?).getD 10
    timeoutMillis := ((fieldOf? table "pool" 1 "task_timeout_ms").bind word?).getD 10000
    nonblocking := ((fieldOf? table "pool" 2 "nonblocking").bind flag?).getD false
    queueLimit := ((fieldOf? table "pool" 3 "max_blocking_tasks").bind word?).getD 0 }
  log := {
    level := ((fieldOf? table "log" 0 "level").bind text?).getD "info"
    file := (fieldOf? table "log" 1 "file").bind text? }

/-- The first key of a section sets its field to what is found for it. -/
theorem ofFound_cons {found : Nat → String → Option Value} {place : Nat}
    {key : String × (Value → Section → Option Section)} {read? : Section → Value → Option Item}
    {set : Section → Item → Section} {keys : Keys Section} {settings result : Section} (item : Item)
    (sets : ∀ value settings, key.2 value settings = (read? settings value).map (set settings))
    (same : set settings item = settings) :
    ofFound found place (key :: keys) settings = some result ↔
      ∃ held, settle (found place key.1) (read? settings) item = some held ∧
        ofFound found (place + 1) keys (set settings held) = some result := by
  have settled : settle (found place key.1) (key.2 · settings) settings =
      (settle (found place key.1) (read? settings) item).map (set settings) := by
    cases found place key.1 with
    | none => exact congrArg some same.symm
    | some value => exact sets value settings
  rw [ofFound, settled, Option.bind_map, Option.bind_eq_some_iff]
  rfl

theorem ofFound_poolKeys {found : Nat → String → Option Value} {settings result : PoolSettings} :
    ofFound found 0 poolKeys settings = some result ↔
      settle (found 0 "size") word? settings.size = some result.size ∧
      settle (found 1 "task_timeout_ms") word? settings.timeoutMillis =
        some result.timeoutMillis ∧
      settle (found 2 "nonblocking") flag? settings.nonblocking = some result.nonblocking ∧
      settle (found 3 "max_blocking_tasks") word? settings.queueLimit = some result.queueLimit := by
  constructor
  · intro known
    obtain ⟨size, first, known⟩ := (ofFound_cons settings.size (fun _ _ => rfl) rfl).mp known
    obtain ⟨timeout, second, known⟩ :=
      (ofFound_cons settings.timeoutMillis (fun _ _ => rfl) rfl).mp known
    obtain ⟨nonblocking, third, known⟩ :=
      (ofFound_cons settings.nonblocking (fun _ _ => rfl) rfl).mp known
    obtain ⟨queueLimit, fourth, known⟩ :=
      (ofFound_cons settings.queueLimit (fun _ _ => rfl) rfl).mp known
    cases known
    exact ⟨first, second, third, fourth⟩
  · rintro ⟨first, second, third, fourth⟩
    refine (ofFound_cons settings.size (fun _ _ => rfl) rfl).mpr ⟨_, first, ?_⟩
    refine (ofFound_cons settings.timeoutMillis (fun _ _ => rfl) rfl).mpr ⟨_, second, ?_⟩
    refine (ofFound_cons settings.nonblocking (fun _ _ => rfl) rfl).mpr ⟨_, third, ?_⟩
    exact (ofFound_cons settings.queueLimit (fun _ _ => rfl) rfl).mpr ⟨_, fourth, rfl⟩

theorem ofFound_logKeys {found : Nat → String → Option Value} {settings result : LogSettings} :
    ofFound found 0 logKeys settings = some result ↔
      settle (found 0 "level") text? settings.level = some result.level ∧
      settle (found 1 "file") (fun value => (text? value).map some) settings.file =
        some result.file := by
  have sets : ∀ value (settings : LogSettings),
      (text? value).map (fun file => { settings with file := some file }) =
        ((text? value).map some).map ({ settings with file := · }) := fun _ _ =>
    (Option.map_map ..).symm
  constructor
  · intro known
    obtain ⟨level, first, known⟩ := (ofFound_cons settings.level (fun _ _ => rfl) rfl).mp known
    obtain ⟨file, second, known⟩ := (ofFound_cons settings.file sets rfl).mp known
    cases known
    exact ⟨first, second⟩
  · rintro ⟨first, second⟩
    refine (ofFound_cons settings.level (fun _ _ => rfl) rfl).mpr ⟨_, first, ?_⟩
    exact (ofFound_cons settings.file sets rfl).mpr ⟨_, second, rfl⟩

theorem ofFound_sections {found : Nat → String → Option Value} {settings result : Settings} :
    ofFound found 0 sections settings = some result ↔
      settle (found 0 "pool") (ofValue poolKeys · settings.pool) settings.pool =
        some result.pool ∧
      settle (found 1 "log") (ofValue logKeys · settings.log) settings.log = some result.log := by
  constructor
  · intro known
    obtain ⟨pool, first, known⟩ := (ofFound_cons settings.pool (fun _ _ => rfl) rfl).mp known
    obtain ⟨log, second, known⟩ := (ofFound_cons settings.log (fun _ _ => rfl) rfl).mp known
    cases known
    exact ⟨first, second⟩
  · rintro ⟨first, second⟩
    refine (ofFound_cons settings.pool (fun _ _ => rfl) rfl).mpr ⟨_, first, ?_⟩
    exact (ofFound_cons settings.log (fun _ _ => rfl) rfl).mpr ⟨_, second, rfl⟩

/-- A section that is missing is as good as one without keys. -/
theorem settle_ofValue {table : Toml.Table} {part : String} {keys : Keys Section}
    {settings result : Section} :
    settle (table.get? part) (ofValue keys · settings) settings = some result ↔
      (∀ value, table.get? part = some value → IsSection keys.keys value) ∧
        ofFound (fieldOf? table part) 0 keys settings = some result := by
  unfold fieldOf?
  cases table.get? part with
  | none => simp [settle, ofFound_nothing]
  | some value => simp [settle, ofValue_eq_some_iff]

theorem getD_bind_text? (found : Option Value) :
    (found.bind fun value => (text? value).map some).getD none = found.bind text? := by
  cases found with
  | none => rfl
  | some value =>
    rw [Option.bind_some, Option.bind_some]
    cases text? value <;> rfl

/-- A document is read exactly if it decodes, and as what it describes. -/
theorem ofEntries_sections_iff {table : Toml.Table} {settings : Settings} :
    ofEntries sections table.entries default = some settings ↔
      Decodes table ∧ settings = described table := by
  obtain ⟨⟨size, timeout, nonblocking, queueLimit⟩, ⟨level, file⟩⟩ := settings
  have whole : ofEntries sections table.entries default =
        some ⟨⟨size, timeout, nonblocking, queueLimit⟩, ⟨level, file⟩⟩ ↔
      (∀ entry ∈ table.entries, entry.1 ∈ ["pool", "log"] ∨ entry.2.inRange = true) ∧
        settle (table.get? "pool") (ofValue poolKeys · defaultPool) defaultPool =
          some ⟨size, timeout, nonblocking, queueLimit⟩ ∧
        settle (table.get? "log") (ofValue logKeys · defaultLog) defaultLog =
          some ⟨level, file⟩ := by
    show ofValue sections table.toValue default = _ ↔ _
    rw [ofValue_eq_some_iff, ofFound_sections]
    rfl
  have readable : ∀ found : Option Value, IsReadableBy found (fun value => (text? value).map some) ↔
      IsReadableBy found text? := by
    simp [IsReadableBy]
  rw [whole, settle_ofValue, settle_ofValue]
  simp only [ofFound_poolKeys, ofFound_logKeys, settle_eq_some_iff, readable, getD_bind_text?,
    defaultPool, defaultLog]
  constructor
  · rintro ⟨passedOver, ⟨pool, ⟨readSize, rfl⟩, ⟨readTimeout, rfl⟩, ⟨readNonblocking, rfl⟩,
      readQueueLimit, rfl⟩, log, ⟨readLevel, rfl⟩, readFile, rfl⟩
    exact ⟨⟨passedOver, pool, log, readSize, readTimeout, readNonblocking, readQueueLimit,
      readLevel, readFile⟩, rfl⟩
  · rintro ⟨decodes, same⟩
    cases same
    exact ⟨decodes.passedOver, ⟨decodes.pool, ⟨decodes.size, rfl⟩, ⟨decodes.timeout, rfl⟩,
      ⟨decodes.nonblocking, rfl⟩, decodes.queueLimit, rfl⟩, decodes.log, ⟨decodes.level, rfl⟩,
      decodes.file, rfl⟩

end Taskyard.Settings

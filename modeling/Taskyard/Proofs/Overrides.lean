/-
This file says which texts a variable with a grammar may have, and what becomes
of every other. The text without the white space around it is one of the two
truth values, or a number of 64 bits: decimal digits after at most one plus, as
many of them as one likes. The field is then what the text says. Any other text
is the error, in the way in which it was set, unless an earlier variable was one
already.
-/

import Mathlib
import Taskyard.Proofs.Layers
import Taskyard.Proofs.Numerals

namespace Taskyard

/-- A variable has a text exactly if it is set to the bytes of that text. -/
theorem Environment.get?_eq_some_iff {environment : Environment} {name text : String} :
    environment.get? name = some text ↔ environment.entries.get? name = some text.toUTF8 := by
  rw [Environment.get?, Option.bind_eq_some_iff]
  constructor
  · rintro ⟨bytes, set, decoded⟩
    rw [String.fromUTF8?, Option.dite_none_right_eq_some] at decoded
    obtain ⟨_, same⟩ := decoded
    rw [← Option.some.inj same]
    exact set
  · intro set
    exact ⟨_, set, dif_pos text.isValidUTF8⟩

namespace Settings

open Text

/-! ### The grammar -/

/-- The overrides with a grammar. -/
inductive Override
  | size
  | timeout
  | nonblocking
  | queueLimit
deriving DecidableEq, Repr

/-- What the text of a variable can mean. -/
inductive Meaning
  | number (value : Nat)
  | flag (holds : Bool)
deriving DecidableEq, Repr

namespace Override

/-- The overrides in the order in which their variables are read. -/
def all : List Override := [.size, .timeout, .nonblocking, .queueLimit]

def name : Override → String
  | .size => "POOL_SIZE"
  | .timeout => "POOL_TASK_TIMEOUT_MS"
  | .nonblocking => "POOL_NONBLOCKING"
  | .queueLimit => "POOL_MAX_BLOCKING_TASKS"

def expected : Override → Expected
  | .size => .size
  | .timeout => .word
  | .nonblocking => .flag
  | .queueLimit => .size

/-- What settings have in the field that an override is about. -/
def field : Override → Settings → Meaning
  | .size, settings => .number settings.pool.size
  | .timeout, settings => .number settings.pool.timeoutMillis
  | .nonblocking, settings => .flag settings.pool.nonblocking
  | .queueLimit, settings => .number settings.pool.queueLimit

/-- What a text means for an override. No other text means anything. -/
inductive Means (text : String) : Override → Meaning → Prop
  | bare {override : Override} {digits : List Char} {number : Nat}
      (numeric : override ≠ .nonblocking) (isCore : IsCore text.toList digits)
      (writes : Writes digits number) (fits : number ≤ 2 ^ 64 - 1) :
      Means text override (.number number)
  | signed {override : Override} {digits : List Char} {number : Nat}
      (numeric : override ≠ .nonblocking) (isCore : IsCore text.toList ('+' :: digits))
      (writes : Writes digits number) (fits : number ≤ 2 ^ 64 - 1) :
      Means text override (.number number)
  | holds (isCore : IsCore text.toList "true".toList) : Means text .nonblocking (.flag true)
  | fails (isCore : IsCore text.toList "false".toList) : Means text .nonblocking (.flag false)

/-- Whether an environment leaves a variable unset, or sets it to a text that means something. -/
def IsKept (environment : Environment) (override : Override) : Prop :=
  ∀ text, environment.get? override.name = some text → ∃ meaning, Means text override meaning

end Override

/-! ### Reading by the grammar -/

theorem readDigits?_eq_some_iff {digits : List Char} {number : Nat} :
    readDigits? digits = some number ↔ Writes digits number ∧ number ≤ 2 ^ 64 - 1 := by
  have refused : (digits.isEmpty ∨ digits.any fun char => !char.isDigit) ↔
      ¬(digits ≠ [] ∧ digits ⊆ decimals) := by
    simp only [List.subset_def, mem_decimals_iff]
    simp [imp_iff_not_or]
  simp only [readDigits?, Option.ite_none_left_eq_some, Option.ite_none_right_eq_some,
    Option.some_inj, refused, not_not, writes_iff_numeralValue]
  constructor
  · rintro ⟨⟨nonempty, decimal⟩, fits, rfl⟩
    exact ⟨⟨nonempty, decimal, rfl⟩, Nat.le_sub_one_of_lt fits⟩
  · rintro ⟨⟨nonempty, decimal, rfl⟩, fits⟩
    exact ⟨⟨nonempty, decimal⟩, Nat.lt_of_le_pred (by decide) fits, rfl⟩

theorem readWord?_eq_some_iff {text : String} {number : Nat} :
    readWord? text = some number ↔
      ∃ digits, (IsCore text.toList digits ∨ IsCore text.toList ('+' :: digits)) ∧
        Writes digits number ∧ number ≤ 2 ^ 64 - 1 := by
  simp only [← trimBlank_eq_iff]
  rw [readWord?]
  split
  · next digits core =>
    rw [readDigits?_eq_some_iff, core]
    constructor
    · intro read
      exact ⟨digits, .inr rfl, read⟩
    · rintro ⟨_, rfl | same, read⟩
      · -- With its plus the core would have to be digits throughout.
        have plus : '+' ∈ decimals := read.1.decimal List.mem_cons_self
        exact absurd plus (by decide)
      · rwa [(List.cons.inj same).2]
  · next unsigned =>
    rw [readDigits?_eq_some_iff]
    constructor
    · intro read
      exact ⟨_, .inl rfl, read⟩
    · rintro ⟨digits, rfl | signed, read⟩
      · exact read
      · exact (unsigned digits signed).elim

theorem readFlag?_eq_some_iff {text : String} {flag : Bool} :
    readFlag? text = some flag ↔
      IsCore text.toList (if flag then "true".toList else "false".toList) := by
  rw [← trimBlank_eq_iff, readFlag?]
  split
  · next holds => cases flag <;> simp [holds]
  · next notTrue =>
    split
    · next fails => cases flag <;> simp [fails]
    · next notFalse =>
      cases flag with
      | true => simpa using notTrue
      | false => simpa using notFalse

namespace Override

/-- What the text of a variable is read as. -/
def read? : Override → String → Option Meaning
  | .nonblocking, text => (readFlag? text).map .flag
  | _, text => (readWord? text).map .number

theorem read?_numeric {override : Override} (numeric : override ≠ .nonblocking) (text : String) :
    override.read? text = (readWord? text).map .number := by
  cases override with
  | nonblocking => exact (numeric rfl).elim
  | size | timeout | queueLimit => rfl

/-- A text is read as what it means. -/
theorem means_iff {override : Override} {text : String} {meaning : Meaning} :
    Means text override meaning ↔ override.read? text = some meaning := by
  constructor
  · intro means
    cases means with
    | bare numeric isCore writes fits =>
      have read := readWord?_eq_some_iff.mpr ⟨_, .inl isCore, writes, fits⟩
      rw [read?_numeric numeric, read, Option.map_some]
    | signed numeric isCore writes fits =>
      have read := readWord?_eq_some_iff.mpr ⟨_, .inr isCore, writes, fits⟩
      rw [read?_numeric numeric, read, Option.map_some]
    | holds isCore =>
      have read : readFlag? text = some true := readFlag?_eq_some_iff.mpr isCore
      rw [read?, read, Option.map_some]
    | fails isCore =>
      have read : readFlag? text = some false := readFlag?_eq_some_iff.mpr isCore
      rw [read?, read, Option.map_some]
  · intro known
    by_cases numeric : override ≠ .nonblocking
    · rw [read?_numeric numeric, Option.map_eq_some_iff] at known
      obtain ⟨number, read, rfl⟩ := known
      obtain ⟨digits, isCore | isCore, writes, fits⟩ := readWord?_eq_some_iff.mp read
      · exact .bare numeric isCore writes fits
      · exact .signed numeric isCore writes fits
    · obtain rfl : override = .nonblocking := not_not.mp numeric
      obtain ⟨flag, read, rfl⟩ := Option.map_eq_some_iff.mp known
      cases flag with
      | true => exact .holds (readFlag?_eq_some_iff.mp read)
      | false => exact .fails (readFlag?_eq_some_iff.mp read)

example : Override.size.read? " +007\n" = some (.number 7) := by rfl
example : Override.size.read? "+ 7" = none := by rfl

theorem Means.unique {override : Override} {text : String} {meaning other : Meaning}
    (means : Means text override meaning) (also : Means text override other) : meaning = other :=
  Option.some.inj ((means_iff.mp means).symm.trans (means_iff.mp also))

/-! ### Overriding by the grammar -/

variable {settings : Settings} {environment : Environment} {override : Override} {text : String}

/-- The variable of an override, with the texts that it accepts. -/
def known (override : Override) : Variable :=
  ⟨override.name, override.expected, fun text => (override.read? text).isSome⟩

theorem knownVariables_eq : knownVariables = all.map known := by
  simp [knownVariables, all, known, name, expected, read?]

/-- The first variable that is the error, found among the overrides. -/
theorem findSome?_misfit? (environment : Environment) :
    knownVariables.findSome? (·.misfit? environment) =
      all.findSome? (·.known.misfit? environment) := by
  rw [knownVariables_eq, List.findSome?_map]
  rfl

theorem misfit?_eq_none_iff : override.known.misfit? environment = none ↔
    override.IsKept environment := by
  simp only [Variable.misfit?, known, IsKept, means_iff]
  cases environment.get? override.name with
  | none => simp
  | some text => cases read : override.read? text <;> simp [read]

theorem misfit?_of_set (set : environment.get? override.name = some text)
    (mute : ∀ meaning, ¬Means text override meaning) : override.known.misfit? environment =
      some (.badVariable override.name text override.expected) := by
  have unread : override.read? text = none :=
    Option.eq_none_iff_forall_ne_some.mpr fun meaning read => mute meaning (means_iff.mpr read)
  simp [Variable.misfit?, known, set, unread]

theorem findSome?_misfit?_eq_none_iff :
    knownVariables.findSome? (·.misfit? environment) = none ↔
      ∀ override : Override, override.IsKept environment := by
  have complete : ∀ override : Override, override ∈ all := fun override => by
    cases override <;> decide
  rw [findSome?_misfit?, List.findSome?_eq_none_iff]
  constructor
  · intro fit override
    exact misfit?_eq_none_iff.mp (fit override (complete override))
  · intro kept override _
    exact misfit?_eq_none_iff.mpr (kept override)

/-- Overriding succeeds exactly if every variable keeps to its grammar. -/
theorem exists_overridden_iff : (∃ result, settings.overriddenBy environment = .ok result) ↔
    ∀ override : Override, override.IsKept environment := by
  rw [← findSome?_misfit?_eq_none_iff, overriddenBy_eq]
  cases knownVariables.findSome? (·.misfit? environment) with
  | none => simp
  | some error => simp

/-- The field of a variable that is set is what the variable means. -/
theorem field_overridden {meaning : Meaning} (settings : Settings)
    (set : environment.get? override.name = some text) (means : Means text override meaning) :
    override.field (settings.overridden environment) = meaning := by
  rw [means_iff] at means
  cases override with
  | nonblocking =>
    obtain ⟨flag, read, rfl⟩ := Option.map_eq_some_iff.mp means
    simp only [name] at set
    simp only [field, overridden, set, Option.bind_some, read, Option.getD_some]
  | size | timeout | queueLimit =>
    obtain ⟨number, read, rfl⟩ := Option.map_eq_some_iff.mp means
    simp only [name] at set
    simp only [field, overridden, set, Option.bind_some, read, Option.getD_some]

theorem parted_at (override : Override) : ∃ rest, all =
    all.takeWhile (fun other => other ≠ override) ++ override :: rest :=
  ⟨(all.dropWhile (fun other => other ≠ override)).tail, by cases override <;> rfl⟩

/-- A text without a meaning is the error if no variable before it is one. -/
theorem overriddenBy_of_mute (settings : Settings)
    (set : environment.get? override.name = some text)
    (mute : ∀ meaning, ¬Means text override meaning)
    (earlier : ∀ other ∈ all.takeWhile (fun other => other ≠ override), other.IsKept environment) :
    settings.overriddenBy environment =
      .error (.badVariable override.name text override.expected) := by
  obtain ⟨rest, parted⟩ := parted_at override
  have fit : (all.takeWhile (fun other => other ≠ override)).findSome?
      (·.known.misfit? environment) = none :=
    List.findSome?_eq_none_iff.mpr fun other member =>
      misfit?_eq_none_iff.mpr (earlier other member)
  have first : knownVariables.findSome? (·.misfit? environment) =
      some (.badVariable override.name text override.expected) := by
    rw [findSome?_misfit?, parted, List.findSome?_append, fit, Option.none_or,
      List.findSome?_cons, misfit?_of_set set mute]
  rw [overriddenBy_eq, first]

/-- If not every variable keeps to its grammar, there is a first that does not. -/
theorem exists_first_mute (unkept : ¬∀ override : Override, override.IsKept environment) :
    ∃ override : Override, ¬override.IsKept environment ∧
      ∀ other ∈ all.takeWhile (fun other => other ≠ override), other.IsKept environment := by
  have failed := mt findSome?_misfit?_eq_none_iff.mp unkept
  rw [findSome?_misfit?] at failed
  obtain ⟨error, found⟩ := Option.ne_none_iff_exists'.mp failed
  obtain ⟨before, override, rest, parted, misfit, fit⟩ := List.findSome?_eq_some_iff.mp found
  have distinct : (before ++ override :: rest).Nodup := parted ▸ (by decide : all.Nodup)
  have absent : override ∉ before := fun member =>
    (List.nodup_append.mp distinct).2.2 override member override List.mem_cons_self rfl
  -- What was looked at before it is just what stands before it, as no override comes twice.
  have passed : ∀ other ∈ before, decide (other ≠ override) = true := fun other member =>
    decide_eq_true fun same => absent (same ▸ member)
  have earlier : all.takeWhile (fun other => other ≠ override) = before := by
    rw [parted, List.takeWhile_append_of_pos passed, List.takeWhile_cons_of_neg (by simp),
      List.append_nil]
  refine ⟨override, ?_, ?_⟩
  · intro kept
    rw [misfit?_eq_none_iff.mpr kept] at misfit
    cases misfit
  · intro other member
    exact misfit?_eq_none_iff.mp (fit other (earlier ▸ member))

/-- The first text without a meaning is the error, as it was set, and nothing else ever is. -/
theorem overriddenBy_eq_error_iff {error : ConfigError} :
    settings.overriddenBy environment = .error error ↔
      ∃ override text, environment.get? override.name = some text ∧
        (∀ meaning, ¬Means text override meaning) ∧
        (∀ other ∈ all.takeWhile (fun other => other ≠ override), other.IsKept environment) ∧
        error = .badVariable override.name text override.expected := by
  constructor
  · intro failed
    have unkept : ¬∀ override : Override, override.IsKept environment := fun kept => by
      obtain ⟨result, overridden⟩ := exists_overridden_iff.mpr kept
      rw [failed] at overridden
      cases overridden
    obtain ⟨override, unkept, earlier⟩ := exists_first_mute unkept
    simp only [IsKept, not_forall, not_exists] at unkept
    obtain ⟨text, set, mute⟩ := unkept
    rw [overriddenBy_of_mute settings set mute earlier] at failed
    exact ⟨override, text, set, mute, earlier, (Except.error.inj failed).symm⟩
  · rintro ⟨override, text, set, mute, earlier, rfl⟩
    exact overriddenBy_of_mute settings set mute earlier

theorem field_of_overridden {result : Settings}
    (set : environment.get? override.name = some text)
    (overridden : settings.overriddenBy environment = .ok result) (meaning : Meaning) :
    override.field result = meaning ↔ Means text override meaning := by
  have kept := exists_overridden_iff.mp ⟨result, overridden⟩
  obtain ⟨meant, means⟩ := kept override text set
  rw [overriddenBy_eq, findSome?_misfit?_eq_none_iff.mpr kept] at overridden
  obtain rfl : settings.overridden environment = result := Except.ok.inj overridden
  rw [field_overridden settings set means]
  constructor
  · rintro rfl
    exact means
  · intro also
    exact means.unique also

/-- With the others in order, all depends on one variable. -/
theorem exists_overridden_iff_of_others (settings : Settings)
    (set : environment.get? override.name = some text)
    (others : ∀ other, other ≠ override → other.IsKept environment) :
    (∃ result, settings.overriddenBy environment = .ok result) ↔
      ∃ meaning, Means text override meaning := by
  rw [exists_overridden_iff]
  constructor
  · intro kept
    exact kept override text set
  · intro meaning other
    by_cases same : other = override
    · subst same
      intro found also
      rw [set] at also
      exact Option.some.inj also ▸ meaning
    · exact others other same

/-- The numbers that a text means are those that it spells and that fit 64 bits. -/
theorem means_number_iff {number : Nat} (numeric : override ≠ .nonblocking) :
    Means text override (.number number) ↔ number < 2 ^ 64 ∧ IsSpelling text.toList number := by
  have bound : number ≤ 2 ^ 64 - 1 ↔ number < 2 ^ 64 := Nat.le_sub_one_iff_lt (by decide)
  rw [means_iff, read?_numeric numeric, Option.map_eq_some_iff, isSpelling_iff]
  constructor
  · rintro ⟨_, read, same⟩
    obtain rfl := Meaning.number.inj same
    obtain ⟨digits, isCore, writes, fits⟩ := readWord?_eq_some_iff.mp read
    exact ⟨bound.mp fits, digits, isCore, writes⟩
  · rintro ⟨fits, digits, isCore, writes⟩
    exact ⟨number, readWord?_eq_some_iff.mpr ⟨digits, isCore, writes, bound.mpr fits⟩, rfl⟩

end Override

/-- Digit by digit in a word of 64 bits, the digits are read as the number that they write. -/
theorem readDigits?_eq_some_iff_foldlM {digits : List Char} {number : Nat} :
    readDigits? digits = some number ↔
      digits ≠ [] ∧ ∃ word, digits.foldlM pushDigit? 0 = some word ∧ word.toNat = number := by
  rw [readDigits?_eq_some_iff, writes_iff_numeralValue]
  constructor
  · rintro ⟨⟨nonempty, decimal, value⟩, fits⟩
    obtain ⟨word, same⟩ := exists_word (Nat.lt_of_le_pred (by decide) fits)
    have read : digits.foldlM pushDigit? 0 = some word := by
      rw [foldlM_pushDigit?_eq_some_iff, same, ← value]
      exact ⟨decimal, numeralValue_eq_ofDigitChars decimal⟩
    exact ⟨nonempty, word, read, same⟩
  · rintro ⟨nonempty, word, read, rfl⟩
    obtain ⟨decimal, value⟩ := foldlM_pushDigit?_eq_some_iff.mp read
    exact ⟨⟨nonempty, decimal, (numeralValue_eq_ofDigitChars decimal).trans value.symm⟩,
      Nat.le_pred_of_lt word.toNat_lt⟩

/-! ### The variables and their texts -/

/-- What becomes of the text that the variable of an override is set to. -/
structure IsHeeded (settings : Settings) (environment : Environment) (override : Override)
    (text : String) : Prop where
  /-- If the other variables keep to their grammar, the text has to do so and need do no more. -/
  accepted : (∀ other, other ≠ override → other.IsKept environment) →
    ((∃ result, settings.overriddenBy environment = .ok result) ↔
      ∃ meaning, override.Means text meaning)
  /-- The field is what the text means and nothing else. -/
  meant : ∀ result, settings.overriddenBy environment = .ok result →
    ∀ meaning, override.field result = meaning ↔ override.Means text meaning
  /-- A text without a meaning is the error, as it was set, unless one before it is. -/
  refused : (∀ meaning, ¬override.Means text meaning) →
    (∀ other ∈ Override.all.takeWhile (fun other => other ≠ override), other.IsKept environment) →
      settings.overriddenBy environment =
        .error (.badVariable override.name text override.expected)

/-- What is promised of the texts of the variables with a grammar. -/
structure ReadsExactly (settings : Settings) (environment : Environment) : Prop where
  heeded : ∀ (override : Override) text, environment.get? override.name = some text →
    IsHeeded settings environment override text
  /-- A number comes from its decimal text, however that is padded, and from no other text. -/
  spelled : ∀ override : Override, override ≠ .nonblocking →
    ∀ text, environment.get? override.name = some text →
      (∀ other, other ≠ override → other.IsKept environment) →
        ∀ number, (∃ result, settings.overriddenBy environment = .ok result ∧
          override.field result = .number number) ↔
            number < 2 ^ 64 ∧ IsSpelling text.toList number
  /-- There is no other error than the first text without a meaning. -/
  failed : ∀ error, settings.overriddenBy environment = .error error ↔
    ∃ override text, environment.get? (Override.name override) = some text ∧
      (∀ meaning, ¬override.Means text meaning) ∧
      (∀ other ∈ Override.all.takeWhile (fun other => other ≠ override),
        other.IsKept environment) ∧
      error = .badVariable override.name text override.expected
  /-- No number wraps around while its digits are read. -/
  stepwise : ∀ digits number, readDigits? digits = some number ↔
    digits ≠ [] ∧ ∃ word, digits.foldlM pushDigit? 0 = some word ∧ word.toNat = number

theorem readsExactly (settings : Settings) (environment : Environment) :
    ReadsExactly settings environment where
  heeded override text set := {
    accepted := Override.exists_overridden_iff_of_others settings set
    meant := fun _ overridden => Override.field_of_overridden set overridden
    refused := Override.overriddenBy_of_mute settings set }
  spelled override numeric text set others number := by
    rw [← Override.means_number_iff numeric]
    constructor
    · rintro ⟨result, overridden, value⟩
      exact (Override.field_of_overridden set overridden _).mp value
    · intro means
      obtain ⟨result, overridden⟩ :=
        (Override.exists_overridden_iff_of_others settings set others).mpr ⟨_, means⟩
      exact ⟨result, overridden, (Override.field_of_overridden set overridden _).mpr means⟩
  failed _ := Override.overriddenBy_eq_error_iff
  stepwise _ _ := readDigits?_eq_some_iff_foldlM

/-- The largest number of 64 bits, with all that a grammar allows around it, and a flag. -/
def brimming : Environment :=
  ⟨[("POOL_SIZE", " \u3000+00018446744073709551615\n".toUTF8),
    ("POOL_NONBLOCKING", "\ttrue".toUTF8)]⟩

/-- One more than the largest number of 64 bits. -/
def overflowing : Environment := ⟨[("POOL_SIZE", "18446744073709551616".toUTF8)]⟩

theorem readsExactly_brimming :
    (∃ result, default.overriddenBy brimming = .ok result ∧
      Override.size.field result = .number 18446744073709551615) ∧
    default.overriddenBy overflowing =
      .error (.badVariable "POOL_SIZE" "18446744073709551616" .size) := by
  have others : ∀ other : Override, other ≠ .size → other.IsKept brimming := by
    intro other apart text set
    cases other with
    | size => exact (apart rfl).elim
    | nonblocking =>
      have known : brimming.get? Override.nonblocking.name = some "\ttrue" :=
        Environment.get?_eq_some_iff.mpr rfl
      obtain rfl : "\ttrue" = text := Option.some.inj (known.symm.trans set)
      exact ⟨.flag true, .holds (trimBlank_eq_iff.mp (by decide))⟩
    | timeout | queueLimit => cases set
  constructor
  · refine ((readsExactly default brimming).spelled .size (by decide) _
      (Environment.get?_eq_some_iff.mpr rfl) others _).mpr ⟨by decide, ?_⟩
    exact ⟨[' ', '\u3000'], ['+'], 3, ['\n'], by rfl, .inr rfl, by simp [whiteSpace],
      by simp [whiteSpace]⟩
  · refine ((readsExactly default overflowing).heeded .size _
      (Environment.get?_eq_some_iff.mpr rfl)).refused ?_ (by simp [Override.all])
    intro meaning means
    have unread : Override.size.read? "18446744073709551616" = none := by rfl
    rw [Override.means_iff, unread] at means
    cases means

end Settings

end Taskyard

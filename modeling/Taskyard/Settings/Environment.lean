/-
This file lets environment variables override settings. A variable counts only
if its bytes are text. Numbers and truth values are read without the white space
around them, in an exact grammar; the first variable that does not fit it is the
error.
-/

import Taskyard.Error
import Taskyard.Listing
import Taskyard.Settings
import Taskyard.Text.Blank
import Taskyard.Text.Numeral

namespace Taskyard

/-- The variables that are set, with their bytes. -/
structure Environment where
  entries : Listing String ByteArray

/-- The text of a variable, if it is set and its bytes are text. -/
def Environment.get? (environment : Environment) (name : String) : Option String :=
  (environment.entries.get? name).bind String.fromUTF8?

namespace Settings

/-! ### The grammar of the values -/

/-- Decimal digits, at least one, of a number of 64 bits. -/
def readDigits? (digits : List Char) : Option Nat :=
  if digits.isEmpty ∨ digits.any (fun char => !char.isDigit) then none
  else
    let value := Text.numeralValue 10 digits
    if value < Text.wordBound then some value else none

/-- A number of 64 bits with at most one plus before its digits, and white space around it. -/
def readWord? (text : String) : Option Nat :=
  match Text.trimBlank text.toList with
  | '+' :: digits => readDigits? digits
  | digits => readDigits? digits

/-- One of the two truth values, with white space around it. -/
def readFlag? (text : String) : Option Bool :=
  let trimmed := Text.trimBlank text.toList
  if trimmed = "true".toList then some true
  else if trimmed = "false".toList then some false
  else none

/-! ### Overriding -/

/-- The value of a variable read by a grammar, if it is set. -/
def readVariable {Result : Type} (environment : Environment) (name : String) (expected : Expected)
    (read? : String → Option Result) : Except ConfigError (Option Result) :=
  match environment.get? name with
  | none => .ok none
  | some text =>
    match read? text with
    | some result => .ok (some result)
    | none => .error (.badVariable name text expected)

/-- The settings with the variables that are set in place of what they said. -/
def overriddenBy (settings : Settings) (environment : Environment) :
    Except ConfigError Settings := do
  let size ← readVariable environment "POOL_SIZE" .size readWord?
  let timeout ← readVariable environment "POOL_TASK_TIMEOUT_MS" .word readWord?
  let nonblocking ← readVariable environment "POOL_NONBLOCKING" .flag readFlag?
  let queueLimit ← readVariable environment "POOL_MAX_BLOCKING_TASKS" .size readWord?
  return {
    pool := {
      size := size.getD settings.pool.size
      timeoutMillis := timeout.getD settings.pool.timeoutMillis
      nonblocking := nonblocking.getD settings.pool.nonblocking
      queueLimit := queueLimit.getD settings.pool.queueLimit }
    log := {
      level := (environment.get? "LOG_LEVEL").getD settings.log.level
      file := (environment.get? "LOG_FILE").or settings.log.file } }

end Settings

end Taskyard

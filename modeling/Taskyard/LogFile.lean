/-
This file prepares the file that a log goes to: a header between two rules with
the time at which the log begins.
-/

import Taskyard.Files
import Taskyard.Settings

namespace Taskyard

/-- The time of day at which a log begins. -/
structure Timestamp where
  year : Nat
  month : Nat
  day : Nat
  hour : Nat
  minute : Nat
  second : Nat
deriving DecidableEq, Repr

namespace Timestamp

/-- A number with zeros before it, at least so many places wide. -/
def padded (width number : Nat) : String :=
  let digits := Nat.toDigits 10 number
  String.ofList (List.replicate (width - digits.length) '0' ++ digits)

def text (stamp : Timestamp) : String :=
  padded 4 stamp.year ++ "-" ++ padded 2 stamp.month ++ "-" ++ padded 2 stamp.day ++ " " ++
    padded 2 stamp.hour ++ ":" ++ padded 2 stamp.minute ++ ":" ++ padded 2 stamp.second

end Timestamp

namespace LogFile

/-- The line that sets a heading off. -/
def rule : String := String.ofList (List.replicate 60 '=')

/-- The header of a log. -/
def header (stamp : Timestamp) : String :=
  rule ++ "\n任务池日志 - " ++ stamp.text ++ "\n" ++ rule ++ "\n\n"

/-- Begin the log that the settings ask for. Without a file there is nothing to prepare. -/
def start (files : Files) (settings : LogSettings) (stamp : Timestamp) : Except FileError Files :=
  match settings.file with
  | none => .ok files
  | some path => files.writeText path (header stamp)

end LogFile

end Taskyard

/-
This file says what can be seen of an error from outside: its message, the
messages of the errors that caused it, outermost first, and the text that
names its parts. An error that is not of this library is known by its report
alone.
-/

import Taskyard.Text.Quoted

namespace Taskyard

/-- An error seen from outside. -/
structure Report where
  message : String
  causes : List String
  detail : String
deriving DecidableEq, Repr

namespace Report

/-- The report of an error that is only a message. -/
def ofMessage (message : String) : Report := ⟨message, [], Text.quoted message⟩

/-- What an error that this report caused lists as its causes. -/
def chain (report : Report) : List String := report.message :: report.causes

end Report

end Taskyard

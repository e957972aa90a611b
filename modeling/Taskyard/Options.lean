/-
This file holds the options of a pool and their two texts: on one line, and
with one option a line.
-/

import Taskyard.Duration

namespace Taskyard

/-- The options that a pool is opened with. -/
structure Options where
  /-- How many bodies may run at a time. -/
  capacity : Nat
  /-- Refuse at once when every slot is taken, instead of queueing. -/
  nonblocking : Bool
  /-- How many submitters may queue; zero sets no limit. -/
  queueLimit : Nat
  /-- The timeout of a batch for which none was set. -/
  taskTimeout : Duration
  /-- Whether somebody wants to hear of bodies that panic. -/
  panicHandler : Bool
deriving DecidableEq, Repr

namespace Options

/-- The timeout of a batch unless the options say otherwise. -/
def defaultTimeout : Duration := .ofSeconds 10

/-- The options of a pool of which only the capacity is given. -/
def ofCapacity (capacity : Nat) : Options := ⟨capacity, false, 0, defaultTimeout, false⟩

/-- Every option with the name under which it is shown. -/
def fields (options : Options) : List (String × String) :=
  [("capacity", toString options.capacity),
    ("nonblocking", toString options.nonblocking),
    ("max_blocking_tasks", toString options.queueLimit),
    ("task_timeout", options.taskTimeout.text),
    ("panic_handler", toString options.panicHandler)]

/-- The options on one line. -/
def detail (options : Options) : String :=
  "PoolOptions \x7b " ++
    String.intercalate ", " (options.fields.map fun field => field.1 ++ ": " ++ field.2) ++ " \x7d"

/-- The options one a line, indented by four blanks. -/
def lines (options : Options) : String :=
  "PoolOptions \x7b\n" ++
    String.join (options.fields.map fun field => "    " ++ field.1 ++ ": " ++ field.2 ++ ",\n") ++
    "\x7d"

end Options

end Taskyard

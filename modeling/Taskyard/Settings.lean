/-
This file holds the settings of the program, in two sections, their defaults,
and the options of the pool that they ask for.
-/

import Taskyard.Options

namespace Taskyard

/-- The section about the pool. -/
structure PoolSettings where
  size : Nat
  timeoutMillis : Nat
  nonblocking : Bool
  queueLimit : Nat
deriving DecidableEq, Repr

/-- The section about the log: how much of it, and the file it goes to, if to any. -/
structure LogSettings where
  level : String
  file : Option String
deriving DecidableEq, Repr

/-- All settings. -/
structure Settings where
  pool : PoolSettings
  log : LogSettings
deriving DecidableEq, Repr

namespace Settings

/-- The pool unless the settings say otherwise: ten slots, ten seconds, and an unbounded queue. -/
def defaultPool : PoolSettings := ⟨10, 10000, false, 0⟩

def defaultLog : LogSettings := ⟨"info", none⟩

def default : Settings := ⟨defaultPool, defaultLog⟩

/-- The options of the pool that the settings ask for. -/
def options (settings : Settings) : Options where
  capacity := settings.pool.size
  nonblocking := settings.pool.nonblocking
  queueLimit := settings.pool.queueLimit
  taskTimeout := .ofMillis settings.pool.timeoutMillis
  panicHandler := false

end Settings

end Taskyard

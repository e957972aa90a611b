/-
This file loads the settings: from a document given as text, from the file at a
path, or the way the program does at its start, from the file that the
environment names and from the environment itself.
-/

import Taskyard.Files
import Taskyard.Settings.Document
import Taskyard.Settings.Environment

namespace Taskyard.Settings

/-- The settings of a document, which is known by the path it came from. -/
def ofDocument (path document : String) : Except ConfigError Settings :=
  match ofDocument? document with
  | some settings => .ok settings
  | none => .error (.malformed path)

/-- The settings of the file at a path. -/
def ofFile (system : FileSystem) (path : String) : Except ConfigError Settings :=
  match system.readText path with
  | .ok document => ofDocument path document
  | .error error => .error (.unreadable path error.report)

/-- The path of the settings unless the environment names another. -/
def defaultPath : String := "config.toml"

/-- The path of the settings in an environment. -/
def pathIn (environment : Environment) : String :=
  (environment.get? "CONFIG_FILE").getD defaultPath

/-- The settings before the environment overrides them: those of the file if the path leads
anywhere, or the defaults. -/
def base (environment : Environment) (system : FileSystem) : Except ConfigError Settings :=
  if system.pathExists (pathIn environment) then ofFile system (pathIn environment)
  else .ok default

/-- The settings that the program starts with. -/
def load (environment : Environment) (system : FileSystem) : Except ConfigError Settings := do
  (← base environment system).overriddenBy environment

end Taskyard.Settings

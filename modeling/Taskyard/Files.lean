/-
This file says what a program gets to know of files: whether a path leads
anywhere, and what reading there gives. Whoever only reads is content with that,
whatever system the files are on.

It also holds one such system, a tree of files and folders, the way a path leads
through it, and what writing at a path does. A path begins at the root of the
tree or, if it has no slash before it, in the folder in which the program works.
-/

import Taskyard.Listing
import Taskyard.Report

namespace Taskyard

/-- Why a path could not be read or written. -/
inductive FileError where
  | notFound
  | notFolder
  | isFolder
  | nameTooLong
  | nulInPath
  | notText
  /-- Anything else that the system may say. -/
  | other (message : String)
deriving DecidableEq, Repr

namespace FileError

def message : FileError → String
  | .notFound => "No such file or directory (os error 2)"
  | .notFolder => "Not a directory (os error 20)"
  | .isFolder => "Is a directory (os error 21)"
  | .nameTooLong => "File name too long (os error 36)"
  | .nulInPath => "file name contained an unexpected NUL byte"
  | .notText => "stream did not contain valid UTF-8"
  | .other message => message

def report (error : FileError) : Report := .ofMessage error.message

end FileError

/-- What can be known of the files of a system. Nothing is said of how both are connected: a file
may be there and not be read, or be gone when it is read. -/
structure FileSystem where
  /-- Whether a path leads anywhere. -/
  pathExists : String → Bool
  /-- The bytes of the file at a path. -/
  readBytes : String → Except FileError ByteArray

/-- The text of the file at a path. -/
def FileSystem.readText (system : FileSystem) (path : String) : Except FileError String := do
  match String.fromUTF8? (← system.readBytes path) with
  | some text => .ok text
  | none => .error .notText

/-- A file with its bytes, a folder, or a file that cannot be read. -/
inductive Node where
  | file (content : ByteArray)
  | folder
  | locked (error : FileError)

/-- A tree: every node below the root with the names that lead to it, and the folder in which the
program works. -/
structure Files where
  working : List String
  nodes : Listing (List String) Node

namespace Files

/-! ### The tree -/

/-- The node that names lead to; no names lead to the root. -/
def node? (files : Files) (names : List String) : Option Node :=
  if names = [] then some .folder else files.nodes.get? names

/-- Put a node where names lead to, in place of what was there. -/
def put (files : Files) (names : List String) (node : Node) : Files :=
  { files with nodes := files.nodes.put names node }

/-- The names between the slashes of a path in the working folder, without those that stay in the
same folder, after those of the working folder. -/
def names (files : Files) (path : String) : List String :=
  files.working ++ (path.splitOn "/").filter fun name => name ≠ "" && name ≠ "."

/-- Make the folders that are missing on the way to and including a place. -/
def makeFolder (files : Files) (place : List String) : Files :=
  (List.range place.length).foldl (fun files count =>
    let names := place.take (count + 1)
    if (files.node? names).isSome then files else files.put names .folder) files

/-- A tree in which a program works in a folder that has nothing in it. -/
def workingIn (working : List String) : Files := makeFolder ⟨working, []⟩ working

/-- Put a file at a path in the working folder, with the folders that lead to it. -/
def makeFile (files : Files) (path : String) (content : ByteArray) : Files :=
  (files.makeFolder (files.names path).dropLast).put (files.names path) (.file content)

/-- A tree with some folders and files in the working folder. -/
def ofLists (working folders : List String) (contents : List (String × ByteArray)) : Files :=
  contents.foldl (fun files entry => files.makeFile entry.1 entry.2)
    (folders.foldl (fun files path => files.makeFolder (files.names path)) (workingIn working))

/-! ### Paths -/

/-- How long a name and a whole path may be, in bytes. -/
def nameLimit : Nat := 255

def pathLimit : Nat := 4095

/-- Follow the steps of a path from a place. Every step but the first starts in a folder; an empty
step and a single point stay there, two points go up, but not beyond the root. -/
def walk (files : Files) (place : List String) : List String → Except FileError (List String)
  | [] => .ok place
  | step :: steps =>
    match files.node? place with
    | none => .error .notFound
    | some (.file _) | some (.locked _) => .error .notFolder
    | some .folder =>
      if step = "" ∨ step = "." then walk files place steps
      else if step = ".." then walk files place.dropLast steps
      else if nameLimit < step.utf8ByteSize then .error .nameTooLong
      else if (files.node? (place ++ [step])).isNone then .error .notFound
      else walk files (place ++ [step]) steps

/-- What makes a path useless before it is followed. -/
def checkPath (path : String) : Except FileError Unit :=
  if path.toList.contains '\x00' then .error .nulInPath
  else if path = "" then .error .notFound
  else if pathLimit < path.utf8ByteSize then .error .nameTooLong
  else .ok ()

/-- The place where a path begins. -/
def origin (files : Files) (path : String) : List String :=
  if path.startsWith "/" then [] else files.working

/-- The place that a path leads to. -/
def resolve (files : Files) (path : String) : Except FileError (List String) := do
  checkPath path
  files.walk (files.origin path) (path.splitOn "/")

/-! ### Reading and writing -/

/-- The bytes of the file at a path. -/
def readBytes (files : Files) (path : String) : Except FileError ByteArray := do
  match files.node? (← files.resolve path) with
  | some (.file content) => .ok content
  | some .folder => .error .isFolder
  | some (.locked error) => .error error
  | none => .error .notFound

/-- A tree as a system that can be read. -/
def system (files : Files) : FileSystem where
  pathExists path := (files.resolve path).isOk
  readBytes := files.readBytes

/-- Steps without the empty ones at their end, which stand for slashes after the last name. -/
def dropSlashes (steps : List String) : List String :=
  (steps.reverse.dropWhile fun step => step = "").reverse

/-- Write a text to the file at a path, in place of what it held. The file may be missing, its
folder may not; a path that can only mean a folder cannot be written, whether there is one or
not. -/
def writeText (files : Files) (path content : String) : Except FileError Files := do
  checkPath path
  let steps := dropSlashes (path.splitOn "/")
  let folder ← files.walk (files.origin path) steps.dropLast
  let last := steps.getLast?.getD ""
  match files.node? folder with
  | some (.file _) | some (.locked _) => .error .notFolder
  | none => .error .notFound
  | some .folder =>
    if path.endsWith "/" ∨ last = "." ∨ last = ".." then .error .isFolder
    else if nameLimit < last.utf8ByteSize then .error .nameTooLong
    else match files.node? (folder ++ [last]) with
      | some .folder => .error .isFolder
      | some (.locked error) => .error error
      | some (.file _) | none => .ok (files.put (folder ++ [last]) (.file content.toUTF8))

end Files

end Taskyard

import Clinker.Dependency.Exclusions
import Clinker.Dependency.Report
import Clinker.Error
import Clinker.FileSystem.Operations

/-!
# Dependency records and dependency files

A record lists what one object was made from: its source and those headers that are not excluded,
in the form for comparison, in the order they were first seen and without repetition. It is
written as a rule in the manner of `make`, one prerequisite a line.
-/

namespace Clinker.Dependency

/-- What an object was made from. -/
structure Record where
  object : Path
  source : Path
  headers : List String
deriving DecidableEq, Repr

/-- The headers worth recording among those a compiler named. -/
def recordedHeaders (x : Exclusions) (named : List String) : List String :=
  (((named.map normalForm).filter (· != "")).eraseDups).filter fun form => !x.excludes form

/-- The record of an object. -/
def record (x : Exclusions) (object source : Path) (named : List String) : Record :=
  ⟨object, source, recordedHeaders x named⟩

namespace Record

/-- A path in a dependency file: every separator is `/`, and a space is preceded by a
backslash. -/
def escapedPath (cs : List Char) : List Char :=
  Text.replaceChar ' ' ['\\', ' '] (forwardSeparators cs)

/-- What stands between two entries of a dependency file. -/
def continuation : List Char := [' ', '\\', '\n', ' ', ' ']

/-- The text of the dependency file. -/
def makefileChars (r : Record) : List Char :=
  escapedPath r.object.text.toList ++ ':' :: continuation ++ escapedPath r.source.text.toList ++
    r.headers.flatMap (fun h => continuation ++ escapedPath h.toList) ++ ['\n']

/-- The text of the dependency file. -/
def makefile (r : Record) : String := String.ofList r.makefileChars

/-- Write the dependency file, creating the directories it lies in. -/
def save (r : Record) (fs : FileSystem) (path : Path) (limits : Limits := {}) :
    Except BuildError Unit × FileSystem :=
  match fs.createParent path limits with
  | (.error e, fs') => (.error (.fileAccess (path.writtenParent?.getD path) e), fs')
  | (.ok (), fs') =>
    match fs'.writeText path r.makefile limits with
    | .error refusal => (.error (.fileAccess path refusal.cause), refusal.left)
    | .ok fs'' => (.ok (), fs'')

end Record

namespace Report

/-- Read a report file. Whatever is wrong with it, the object it belongs to is good, so the error
says so. -/
def load (fs : FileSystem) (report source : Path) : Except BuildError Report :=
  match fs.readText report with
  | .error e => .error (.reportUnusable source report e.message)
  | .ok text =>
    match ofText? text with
    | none => .error (.reportUnusable source report "malformed report")
    | some r => .ok r

end Report

end Clinker.Dependency

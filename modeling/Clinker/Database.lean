import Clinker.Command
import Clinker.FileSystem.Operations
import Clinker.Json.Printer

/-!
# The compilation database

How each source was compiled, in the format that editors and analysers read: a JSON array of
objects with the directory, the file, the arguments and the output. A source and output that are
recorded again replace their earlier entry.
-/

namespace Clinker

/-- How one source was compiled. -/
structure DatabaseEntry where
  directory : String
  file : String
  arguments : List String
  output : Option String
deriving DecidableEq, Repr

namespace DatabaseEntry

/-- The entry of a command that compiled `source` into `object` in some directory. -/
def ofCommand (directory source object : Path) (c : Command) : DatabaseEntry :=
  ⟨directory.text, source.text, c.program.text :: c.args, some object.text⟩

/-- Whether two entries are about the same source and output. -/
def sameSubject (a b : DatabaseEntry) : Bool := a.file == b.file && a.output == b.output

/-- A text as a JSON value. -/
def jsonText (s : String) : Json := .string (some s)

/-- The entry as a JSON object. -/
def toJson (e : DatabaseEntry) : Json :=
  let output := match e.output with
    | some path => [(some "output", jsonText path)]
    | none => []
  .object ([(some "directory", jsonText e.directory), (some "file", jsonText e.file),
    (some "arguments", .array (e.arguments.map jsonText))] ++ output)

end DatabaseEntry

/-- The text of a database file with the given entries. -/
def databaseText (entries : List DatabaseEntry) : String :=
  (Json.array (entries.map DatabaseEntry.toJson)).render

/-- Write one entry as a database of its own. -/
def DatabaseEntry.saveAlone (e : DatabaseEntry) (fs : FileSystem) (path : Path)
    (limits : Limits := {}) : Except FileError Unit × FileSystem :=
  fs.saveText path (databaseText [e]) limits

/-- The entries recorded so far, in the order of their last recording. -/
structure Database where
  recorded : List DatabaseEntry
deriving DecidableEq, Repr

namespace Database

/-- Nothing is recorded. -/
def empty : Database := ⟨[]⟩

/-- Record an entry in place of an earlier one about the same subject. -/
def record (db : Database) (e : DatabaseEntry) : Database :=
  ⟨db.recorded.filter (fun old => !old.sameSubject e) ++ [e]⟩

/-- The entries sorted by file; those of one file keep their order. -/
def entries (db : Database) : List DatabaseEntry :=
  db.recorded.mergeSort fun a b => Text.le a.file b.file

/-- How many entries there are. -/
def size (db : Database) : Nat := db.recorded.length

/-- Write all entries. -/
def save (db : Database) (fs : FileSystem) (path : Path) (limits : Limits := {}) :
    Except FileError Unit × FileSystem :=
  fs.saveText path (databaseText db.entries) limits

@[simp] theorem recorded_empty : empty.recorded = [] := rfl

end Database

end Clinker

import Clinker.Command
import Clinker.Database
import Clinker.Error

/-!
# Where tools run

Everything a build reads and changes is one value, a `Workshop`: the files, whatever the runner
of tools keeps for itself, the calls made so far and the compilation database. With it comes what
the system refuses a build, which does not change. A runner is a function, so a build is one too,
and what it did can be read off the workshop it leaves.
-/

namespace Clinker

/-- Runs tools. `σ` is what the runner remembers between calls. -/
structure ToolRunner (σ : Type) where
  run : Command → σ → FileSystem → Except BuildError ToolOutput × σ × FileSystem

/-- What a build reads and changes. -/
structure Workshop (σ : Type) where
  files : FileSystem
  memory : σ
  /-- The commands given to the runner, in order. -/
  calls : List Command
  /-- The compilation database, if one is kept. -/
  database : Option Database
  /-- What the system refuses. It is nothing to the tools, whose runner answers for them. -/
  limits : Limits

namespace Workshop

variable {σ : Type}

/-- A workshop in which nothing has run yet. -/
def start (files : FileSystem) (memory : σ) (database : Option Database)
    (limits : Limits := {}) : Workshop σ :=
  ⟨files, memory, [], database, limits⟩

/-- Give a command to the runner. -/
def call (runner : ToolRunner σ) (c : Command) (w : Workshop σ) :
    Except BuildError ToolOutput × Workshop σ :=
  let (answer, memory, files) := runner.run c w.memory w.files
  (answer, { w with files := files, memory := memory, calls := w.calls ++ [c] })

/-- The workshop with other files. -/
def withFiles (w : Workshop σ) (files : FileSystem) : Workshop σ := { w with files := files }

/-- Record an entry if a database is kept. -/
def recordEntry (w : Workshop σ) (e : DatabaseEntry) : Workshop σ :=
  { w with database := w.database.map (·.record e) }

@[simp] theorem calls_call (runner : ToolRunner σ) (c : Command) (w : Workshop σ) :
    (w.call runner c).2.calls = w.calls ++ [c] := rfl

@[simp] theorem database_call (runner : ToolRunner σ) (c : Command) (w : Workshop σ) :
    (w.call runner c).2.database = w.database := rfl

@[simp] theorem limits_call (runner : ToolRunner σ) (c : Command) (w : Workshop σ) :
    (w.call runner c).2.limits = w.limits := rfl

@[simp] theorem limits_withFiles (w : Workshop σ) (files : FileSystem) :
    (w.withFiles files).limits = w.limits := rfl

@[simp] theorem calls_recordEntry (w : Workshop σ) (e : DatabaseEntry) :
    (w.recordEntry e).calls = w.calls := rfl

@[simp] theorem files_recordEntry (w : Workshop σ) (e : DatabaseEntry) :
    (w.recordEntry e).files = w.files := rfl

end Workshop

end Clinker

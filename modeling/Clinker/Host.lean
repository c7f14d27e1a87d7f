import Clinker.FileSystem.Basic
import Clinker.Text.Space

/-!
# The machine a program runs on

The variables of the program's own process, and what follows from them: where the user's home is,
where temporary files go, and which program interprets batch files.
-/

namespace Clinker

/-- The process a program runs in. -/
structure Host where
  vars : List (String × String)
  /-- The home directory of the user's account. -/
  accountHome : Option Path

namespace Host

/-- The value of a variable of the process. -/
def get? (h : Host) (name : String) : Option String := h.vars.lookup name

/-- The home directory: what `HOME` says, or else that of the account. -/
def home? (h : Host) : Option Path :=
  match h.get? "HOME" with
  | some "" | none => h.accountHome
  | some dir => some ⟨dir⟩

/-- Where temporary files go. -/
def tempDirectory (h : Host) : Path := ⟨(h.get? "TMPDIR").getD "/tmp"⟩

/-- A directory of the search path with a leading `~` replaced by the home directory. -/
def expandHome (h : Host) (dir : Path) : Path :=
  match dir.steps, h.home? with
  | "~" :: rest, some home => if dir.isAbsolute then dir else home.joinAll rest
  | _, _ => dir

/-- A relative path made absolute; `.` components are dropped. -/
def absolute (fs : FileSystem) (p : Path) : Path :=
  if p.isAbsolute then p else fs.currentPath.joinAll (p.steps.filter (· != "."))

/-- The first program of a name on the search path, given absolutely. -/
def findProgram? (h : Host) (fs : FileSystem) (name : String) : Option Path := do
  let path ← h.get? "PATH"
  let candidates := (Text.piecesAt ':' path).map fun dir =>
    absolute fs ((h.expandHome ⟨dir⟩).join ⟨name⟩)
  candidates.find? fs.isExecutable

/-- The program that runs batch files: what `COMSPEC` names, or a `cmd` on the search path, or
else `cmd.exe`. -/
def commandInterpreter (h : Host) (fs : FileSystem) : Path :=
  match h.get? "COMSPEC" with
  | some "" | none => (h.findProgram? fs "cmd").getD ⟨"cmd.exe"⟩
  | some program => ⟨program⟩

end Host

end Clinker

import Clinker.CommandLine.Quote
import Clinker.FileSystem.Operations
import Clinker.Job
import Clinker.Session
import Clinker.Workshop

/-!
# Linking one artifact

Static libraries are made by the archiver, everything else by the linker. A command line that is
too long for the tools is written to a response file next to the artifact, quoted by the same
rules, and the tool is given that file instead.
-/

namespace Clinker.Link

variable {σ : Type}

/-! ## Commands -/

/-- The archiver's command. -/
def archiveCommand (s : Session) (job : LinkJob) : Command :=
  s.command .archiver <|
    ["/nologo"] ++ s.variant.archiverFlags ++
      ["/MACHINE:" ++ s.arch.machine, "/OUT:" ++ job.target.text] ++ job.objects.map (·.text)

/-- The file name of a library; the extension need not be written. -/
def libraryFile (name : String) : String :=
  if (Path.mk name).hasExtension "lib" then name else name ++ ".lib"

/-- The linker's command. -/
def linkCommand (s : Session) (job : LinkJob) : Command :=
  let manifest := match job.options.manifest with
    | some p => ["/MANIFESTINPUT:" ++ p.text]
    | none => []
  s.command .linker <|
    ["/nologo"] ++ (if job.options.artifact == .dynamicLibrary then ["/DLL"] else []) ++
      ["/MACHINE:" ++ s.arch.machine] ++ s.variant.linkerFlags ++
      [job.options.subsystem.flag, "/MANIFEST:EMBED"] ++ manifest ++
      ["/OUT:" ++ job.target.text] ++ job.objects.map (·.text) ++
      job.libDirs.map ("/LIBPATH:" ++ ·.text) ++ job.libs.map libraryFile ++
      job.options.keptSymbols.map (fun symbol => "/INCLUDE:" ++ s.arch.decorate symbol) ++
      job.extraArgs

/-- The command that makes an artifact. -/
def commandFor (s : Session) (job : LinkJob) : Command :=
  match job.options.artifact with
  | .staticLibrary => archiveCommand s job
  | .dynamicLibrary | .executable => linkCommand s job

/-! ## Response files -/

/-- The longest command line passed directly, in bytes. Tools behind the command interpreter stop
at 8191 characters. -/
def maxLineBytes : Nat := 8000

/-- The response file of a target. -/
def responseFile (target : Path) : Path := target.suffixed ".rsp"

/-- What a response file holds: the arguments on one line. -/
def responseText (c : Command) : String := CommandLine.join c.args ++ "\r\n"

/-- A command whose arguments are in a response file. -/
def viaResponseFile (c : Command) (target : Path) : Command :=
  { c with args := ["@" ++ (responseFile target).text] }

/-- The command to run in place of `c`, with its response file written if it needs one. -/
def prepare (c : Command) (target : Path) (fs : FileSystem) (limits : Limits) :
    Except BuildError Command × FileSystem :=
  if c.line.utf8ByteSize ≤ maxLineBytes then (.ok c, fs)
  else match fs.writeText (responseFile target) (responseText c) limits with
    | .error refusal => (.error (.fileAccess (responseFile target) refusal.cause), refusal.left)
    | .ok fs' => (.ok (viaResponseFile c target), fs')

/-! ## Linking -/

/-- Run the command of a job; an exit code other than zero is an error of the link. -/
def runTool (runner : ToolRunner σ) (job : LinkJob) (c : Command) (w : Workshop σ) :
    Except BuildError Path × Workshop σ :=
  let (answer, w) := w.call runner c
  let checked := answer.bind fun output =>
    if output.succeeded then .ok job.target
    else .error (.linkFailed job.target output.code output.combined)
  (checked, w)

/-- Link one artifact for an architecture; the result is where it is. -/
def link (s : Session) (runner : ToolRunner σ) (arch : Architecture) (job : LinkJob)
    (w : Workshop σ) : Except BuildError Path × Workshop σ :=
  match s.checkArchitecture arch with
  | .error e => (.error e, w)
  | .ok () =>
    match w.files.createParent job.target w.limits with
    | (.error e, files) => (.error (.fileAccess job.target e), w.withFiles files)
    | (.ok (), files) =>
      match prepare (commandFor s job) job.target files w.limits with
      | (.error e, files) => (.error e, w.withFiles files)
      | (.ok c, files) => runTool runner job c (w.withFiles files)

end Clinker.Link

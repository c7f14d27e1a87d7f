import Clinker.FileSystem.Operations
import Clinker.Installation
import Clinker.Session
import Clinker.Workshop

/-!
# Setting up a session

A session's environment comes from one of two places. A developer prompt has set up the process
already; its variables are used as they are, provided that it targets the architecture asked for
and, when a companion was made with some release, that it is of this release. Otherwise the setup
script of an installation is run once, by a batch file that then lists the variables.

Either way the variables a toolchain needs must be set and every tool must be on the search path.
-/

namespace Clinker

/-- What a session is wanted for, and where to look for an installation. -/
structure SetupSettings where
  arch : Architecture
  variant : Variant
  candidates : List Candidate
  editions : List String
  companion : Option Companion
  extraExclusions : List Path
  /-- Whether a developer prompt's environment may be used. -/
  useDeveloperPrompt : Bool
deriving DecidableEq, Repr

namespace SetupSettings

/-- The standard places to look for an installation. -/
def standard (h : Host) (arch : Architecture) (variant : Variant) : SetupSettings :=
  ⟨arch, variant, standardCandidates h, standardEditions, none, [], true⟩

/-- The release that the installation should be of. -/
def release? (s : SetupSettings) : Option String := s.companion.bind Companion.release?

end SetupSettings

namespace Setup

variable {σ : Type}

/-- The variables a toolchain needs. -/
def requiredVariables : List String :=
  ["PATH", "INCLUDE", "LIB", "VCToolsInstallDir", "WindowsSdkDir"]

/-- The session in an environment that `script` has set up. -/
def sessionIn (settings : SetupSettings) (env : Environment) (fs : FileSystem)
    (script vendor : Path) : Except BuildError Session := do
  requiredVariables.forM fun name => do let _ ← env.require name script
  let tools ← ToolPaths.resolve env fs script
  let sdk ← env.require "WindowsSdkDir" script
  let toolsDir ← env.require "VCToolsInstallDir" script
  return {
    arch := settings.arch
    variant := settings.variant
    tools := tools
    env := env
    roots := {
      vendor := vendor
      sdk := ⟨sdk⟩
      companion := settings.companion.map (·.root)
      systemInclude := (Path.mk toolsDir).join ⟨"include"⟩
      extraExclusions := settings.extraExclusions } }

/-! ## From a developer prompt -/

/-- Whether an environment is that of a developer prompt the settings can use. -/
def promptFits (settings : SetupSettings) (env : Environment) : Bool :=
  let target := (env.get? "VSCMD_ARG_TGT_ARCH").bind Architecture.ofPrompt?
  let version := env.get? "VisualStudioVersion" <|> env.get? "VSCMD_VER"
  target == some settings.arch &&
    match settings.release? with
    | none => true
    | some release => version.bind releaseYear? == some release

/-- The session in a developer prompt's environment, if that can be used. -/
def sessionFromPrompt (settings : SetupSettings) (env : Environment) (fs : FileSystem) :
    Except BuildError (Option Session) :=
  if promptFits settings env then
    let vendor : Path := match env.get? "VSINSTALLDIR" with
      | some dir => ⟨Text.onChars (Text.dropEndWhile (· == '\\')) dir⟩
      | none => ⟨""⟩
    (sessionIn settings env fs (Installation.setupScriptIn vendor) vendor).map some
  else .ok none

/-! ## From the setup script -/

/-- The batch file that runs the setup script, whose own output goes to standard error, and then
lists the variables. -/
def batchText (script : Path) (arch : Architecture) : String :=
  s!"@echo off\r\ncall \"{script.text}\" {arch.setupArgument} 1>&2\r\n" ++
    "if errorlevel 1 exit /b 1\r\nset\r\n"

/-- A name for the batch file that is not in use. -/
def batchPath (h : Host) (fs : FileSystem) : Path :=
  let name (n : Nat) : Path :=
    Host.absolute fs (h.tempDirectory.join ⟨s!"vcbridge-vcvars{n}.bat"⟩)
  let free := (List.range (fs.entries.length + 1)).find? fun n => !fs.pathExists (name n)
  name (free.getD 0)

/-- The command that runs a batch file. With `/u` the listing is UTF-16 whatever the code page. -/
def batchCommand (interpreter batch : Path) : Command :=
  { program := interpreter, args := ["/u", "/d", "/c", batch.text], env := [],
    stdout := .utf16le, stderr := .lossy }

/-- The environment that a successful run of the batch file lists. -/
def environmentOf (script : Path) (output : ToolOutput) : Except BuildError Environment :=
  if output.succeeded then .ok (Environment.ofListing output.stdout)
  else
    let shown := Text.onChars (List.filter (· != '\x00')) output.combined
    .error (.setupFailed script output.code shown)

/-- Remove a batch file, if it is there. It is the build's own, so the limits of the system do not
apply to it. -/
def discard (batch : Path) (w : Workshop σ) : Workshop σ :=
  match w.files.removeFile batch {} with
  | .ok files => w.withFiles files
  | .error _ => w

/-- The error of a batch file that could not be written. It names the folder when there was no file
to write to. -/
def batchError (h : Host) (batch : Path) (refusal : Refusal) : BuildError :=
  .fileAccess (if refusal.left.pathExists batch then batch else h.tempDirectory) refusal.cause

/-- Run the setup script for an architecture and read the environment it leaves. The batch file
exists only while it runs. -/
def capture (h : Host) (runner : ToolRunner σ) (script : Path) (arch : Architecture)
    (w : Workshop σ) : Except BuildError Environment × Workshop σ :=
  let batch := batchPath h w.files
  match w.files.writeText batch (batchText script arch) w.limits with
  | .error refusal =>
    (.error (batchError h batch refusal), discard batch (w.withFiles refusal.left))
  | .ok files =>
    let command := batchCommand (h.commandInterpreter w.files) batch
    let (answer, w) := (w.withFiles files).call runner command
    (answer.bind (environmentOf script), discard batch w)

/-- The session in the environment that an installation's setup script leaves. -/
def sessionFromScript (h : Host) (runner : ToolRunner σ) (settings : SetupSettings)
    (w : Workshop σ) : Except BuildError Session × Workshop σ :=
  match Installation.select w.files settings.candidates settings.editions settings.release? with
  | .error e => (.error e, w)
  | .ok i =>
    let (env, w) := capture h runner i.setupScript settings.arch w
    (env.bind fun env => sessionIn settings env w.files i.setupScript i.directory, w)

/-- Set up a session. -/
def establish (h : Host) (runner : ToolRunner σ) (settings : SetupSettings) (w : Workshop σ) :
    Except BuildError Session × Workshop σ :=
  if settings.useDeveloperPrompt then
    match sessionFromPrompt settings (.ofPairs h.vars) w.files with
    | .error e => (.error e, w)
    | .ok (some session) => (.ok session, w)
    | .ok none => sessionFromScript h runner settings w
  else sessionFromScript h runner settings w

end Setup

end Clinker

import Clinker.Diagnostic
import Clinker.FileSystem.Basic
import Clinker.Target.Architecture
import Clinker.Text.Space

/-!
# What can go wrong in a build

A `BuildError` is a cause with the facts that belong to it. Its wording, its category and what a
user is advised to do are functions of the cause.
-/

namespace Clinker

/-- Why no session could be set up, or why a compile or link did not succeed. -/
inductive BuildError
  | noInstallation (searched : List Path)
  | wrongArchitecture (session requested : Architecture)
  | missingVariable (name : String) (script : Path)
  | setupFailed (script : Path) (code : Option Int) (output : String)
  | badConfiguration (reason : String)
  | cannotStart (program : Path) (cause : SystemError)
  | compileFailed (source : Path) (code : Option Int) (output : String)
  | linkFailed (target : Path) (code : Option Int) (output : String)
  | reportUnusable (source report : Path) (reason : String)
  | fileAccess (path : Path) (cause : SystemError)
deriving DecidableEq, Repr

/-- Categories of errors, which decide what a caller may keep and retry. -/
inductive ErrorKind
  /-- A missing installation or variable, or a request that cannot be met. -/
  | configuration
  /-- A tool could not be started or reported failure. -/
  | toolInvocation
  /-- The object is good, but its headers are not known. -/
  | dependencyExtraction
  | io
deriving DecidableEq, Repr

namespace BuildError

/-- The category of an error. -/
def kind : BuildError → ErrorKind
  | noInstallation .. | wrongArchitecture .. | missingVariable .. | setupFailed ..
  | badConfiguration .. => .configuration
  | cannotStart .. | compileFailed .. | linkFailed .. => .toolInvocation
  | reportUnusable .. => .dependencyExtraction
  | fileAccess .. => .io

/-- Whether retrying is pointless. -/
def isConfiguration (e : BuildError) : Bool := e.kind == .configuration

/-- An exit code in messages. -/
def showCode : Option Int → String
  | some code => s!"Some({code})"
  | none => "None"

/-- The one-line message. -/
def message : BuildError → String
  | noInstallation _ => "no Visual C++ installation found"
  | wrongArchitecture session requested =>
    s!"session is initialized for {session.name}, but the request targets {requested.name}"
  | missingVariable name script => s!"`{name}` is not set after running {script.text}"
  | setupFailed script code _ =>
    s!"environment setup script {script.text} failed (exit code {showCode code})"
  | badConfiguration reason => reason
  | cannotStart program _ => s!"failed to start `{program.text}`"
  | compileFailed source code _ =>
    s!"compilation failed for {source.text} (exit code {showCode code})"
  | linkFailed target code _ => s!"linking failed for {target.text} (exit code {showCode code})"
  | reportUnusable source _ reason =>
    s!"could not read dependency report for {source.text}: {reason}"
  | fileAccess path _ => s!"I/O error on {path.text}"

/-- A stable identifier of the cause. -/
def code : BuildError → String
  | noInstallation .. => "vcbridge::env::not_found"
  | wrongArchitecture .. => "vcbridge::config::arch_mismatch"
  | missingVariable .. => "vcbridge::env::missing_variable"
  | setupFailed .. => "vcbridge::env::setup_failed"
  | badConfiguration .. => "vcbridge::config::invalid"
  | cannotStart .. => "vcbridge::exec::spawn"
  | compileFailed .. => "vcbridge::compile::failed"
  | linkFailed .. => "vcbridge::link::failed"
  | reportUnusable .. => "vcbridge::compile::dependencies"
  | fileAccess .. => "vcbridge::io"

/-- General advice on a cause. -/
def help? : BuildError → Option String
  | noInstallation .. =>
    some ("Install Visual Studio or the Build Tools, or list the install root under " ++
      "[toolchain] candidates")
  | wrongArchitecture .. => some "Create a separate session for each architecture"
  | reportUnusable .. =>
    some "The object file is usable; rebuild it to regenerate its dependency file"
  | _ => none

/-- What the tool wrote, for failures of tools. -/
def toolOutput? : BuildError → Option String
  | compileFailed _ _ output | linkFailed _ _ output | setupFailed _ _ output => some output
  | _ => none

/-- How many lines of the setup script are shown. -/
def shownSetupLines : Nat := 10

/-- The lines that explain an error. -/
def context : BuildError → List String
  | noInstallation searched => searched.map fun root => s!"searched {root.text}"
  | setupFailed _ _ output => ((Text.inkedLines output).take shownSetupLines).map Text.trim
  | compileFailed _ _ output | linkFailed _ _ output => (Text.inkedLines output).map Text.trimEnd
  | cannotStart _ cause | fileAccess _ cause => [cause.message]
  | _ => []

/-- The file an error concerns. -/
def location? : BuildError → Option Path
  | missingVariable _ script | setupFailed script _ _ => some script
  | reportUnusable _ report _ => some report
  | _ => none

/-- What a user can try. -/
def suggestions : BuildError → List String
  | noInstallation .. =>
    ["Install the \"Desktop development with C++\" workload",
     "Add the install root to [toolchain] candidates in .vcbridge/config.toml",
     "Run `vcbridge env --arch x64` from a Developer Command Prompt to check detection"]
  | wrongArchitecture session _ => [s!"Pass --arch {session.name} or initialize another session"]
  | missingVariable .. => ["Repair the Visual Studio installation"]
  | compileFailed .. | linkFailed .. => ["Re-run with --verbose to see the full command line"]
  | reportUnusable .. => ["Delete the object file to force a rebuild"]
  | _ => []

/-- The error as a user reads it. -/
def diagnostic (e : BuildError) : Diagnostic :=
  ⟨e.message, e.context, e.suggestions, e.location?⟩

end BuildError

end Clinker

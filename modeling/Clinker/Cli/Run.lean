import Clinker.Build
import Clinker.Cli.Invocation
import Clinker.CommandLine.Split
import Clinker.Configuration.Reader
import Clinker.Glob.Search

/-!
# Carrying out commands

Each command is a function on the workshop that either fails or says something on the two streams.
Sessions are set up from the user's and the project's configuration, over which the options of
the command line win. The compilation database and its fragments are extras: when they cannot be
written the command still succeeds.
-/

namespace Clinker.Cli

variable {σ : Type}

/-- What a command writes and how it ends. -/
structure Transcript where
  code : Nat
  stdout : String
  stderr : String
deriving DecidableEq, Repr

/-- Why a command failed. -/
inductive Failure
  | build (e : BuildError)
  | unknownName (e : UnknownName)
  | file (e : FileError)
  | badPattern (e : BadPattern)
  | noSources
  | sourceRequired
  | malformedReport (path : Path)
deriving DecidableEq, Repr

namespace Failure

/-- What is said of a failure that is not an error of the build. -/
def plainMessage (text : String) : String := s!"error: {text}\n"

/-- What a failed command writes to standard error. -/
def report (colored : Bool) : Failure → String
  | build e => e.diagnostic.render colored
  | unknownName e => plainMessage e.message
  | file e => plainMessage s!"{e.message}: {e.cause.message}"
  | badPattern e => plainMessage e.message
  | noSources =>
    plainMessage <| "no source files matched\n" ++
      "help: Pass source files or glob patterns, e.g. `src/**/*.cpp`"
  | sourceRequired => plainMessage "--source is required for /showIncludes input"
  | malformedReport p => plainMessage s!"malformed dependency report: {p.text}"

end Failure

/-- What a command that succeeded says. -/
structure Report where
  stdout : String := ""
  stderr : String := ""
deriving DecidableEq, Repr

/-- Some lines, each with its end. -/
def linesText (lines : List String) : String := String.join (lines.map (· ++ "\n"))

/-! ## Sessions -/

/-- What the session of a command is set up from. -/
def settingsFor (h : Host) (config : Configuration) (choice : SessionChoice) :
    Except UnknownName SetupSettings := do
  let arch ← choice.arch.mapM Architecture.ofName
  let variant := if choice.release then some Variant.release else none
  let settings ← config.settings h arch variant
  return if choice.noDevPrompt then { settings with useDeveloperPrompt := false } else settings

/-- The session of a command. -/
def openSession (h : Host) (runner : ToolRunner σ) (config : Configuration)
    (choice : SessionChoice) (w : Workshop σ) : Except Failure Session × Workshop σ :=
  match settingsFor h config choice with
  | .error e => (.error (.unknownName e), w)
  | .ok settings =>
    let (session, w) := Setup.establish h runner settings w
    (session.mapError .build, w)

/-- A text filled up with spaces to ten characters. -/
def padded (text : String) : String :=
  text ++ String.ofList (List.replicate (10 - text.length) ' ')

/-- A session as `env` shows it. -/
def describe (s : Session) (vars : Bool) : String :=
  let companion := s.roots.companion.toList.map fun p => s!"  Companion: {p.text}"
  let listing :=
    if vars then
      ["", s!"Environment ({s.env.size} variables):"] ++
        s.env.vars.map fun (k, v) => s!"  {k}={v}"
    else []
  linesText <|
    ["Toolchain:", "",
     s!"  Arch:    {s.arch.name}",
     s!"  Variant: {s.variant.name}",
     s!"  Install: {s.roots.vendor.text}",
     s!"  SDK:     {s.roots.sdk.text}",
     s!"  Include: {s.roots.systemInclude.text}"] ++ companion ++
    ["", "Tools:"] ++
    Tool.all.map (fun tool => s!"  {padded tool.executable} {(s.tools.get tool).text}") ++
    ["", "Excluded from dependency files:"] ++
    s.exclusions.roots.map (s!"  {·}") ++ listing

/-- The options for linking that a user has chosen. -/
def linkOptions (choice : ArtifactChoice) : Except Failure LinkOptions :=
  match LinkOptions.ofNames choice.kind choice.subsystem with
  | .error e => .error (.build e.toBuildError)
  | .ok options =>
    .ok { options with keptSymbols := choice.keptSymbols, manifest := choice.manifest }

/-! ## Compiling and linking -/

/-- Compile one source. -/
def compile (runner : ToolRunner σ) (s : Session) (choice : CompileChoice) (w : Workshop σ) :
    Except Failure Report × Workshop σ :=
  match Runtime.ofName choice.runtime with
  | .error e => (.error (.unknownName e), w)
  | .ok runtime =>
    let job : CompileJob := {
      source := choice.source
      object := choice.object
      depFile := choice.depFile.getD (Build.depFile choice.object)
      macros := choice.macros
      includeDirs := choice.includeDirs
      frameworkPaths := []
      runtime := runtime }
    match Compile.compile s runner s.arch job { w with database := some .empty } with
    | (.error e, w) => (.error (.build e), w)
    | (.ok record, w) =>
      let recorded := w.database.bind fun db => db.entries.head?
      let files := match choice.fragment, recorded with
        | some path, some entry => (entry.saveAlone w.files path w.limits).2
        | _, _ => w.files
      let said := s!"    Compiled {choice.source.text} -> {choice.object.text} " ++
        s!"({record.headers.length} headers tracked)\n"
      (.ok { stderr := said }, w.withFiles files)

/-- Link one artifact. -/
def link (runner : ToolRunner σ) (s : Session) (target : Path) (objects : List Path)
    (choice : ArtifactChoice) (w : Workshop σ) : Except Failure Report × Workshop σ :=
  match linkOptions choice with
  | .error e => (.error e, w)
  | .ok options =>
    let job : LinkJob := {
      target := target
      objects := objects
      libDirs := choice.libDirs
      libs := choice.libs
      frameworks := []
      frameworkPaths := []
      extraArgs := choice.extraArgs
      options := options }
    let (artifact, w) := Link.link s runner s.arch job w
    let said := artifact.map fun p =>
      { stderr := s!"    Finished `{options.artifact.name}` -> {p.text}\n" : Report }
    (said.mapError .build, w)

/-- The plan of a build. -/
def planOf (files : FileSystem) (choice : BuildChoice) (artifact : ArtifactChoice) :
    Except Failure Build.Plan := do
  let sources ← (Glob.files files files.currentPath choice.sources).mapError .badPattern
  if sources.isEmpty then .error .noSources else
  let options ← linkOptions artifact
  let runtime ← (Runtime.ofName choice.runtime).mapError .unknownName
  return {
    sources := sources
    outDir := choice.outDir
    macros := choice.macros
    includeDirs := choice.includeDirs
    runtime := runtime
    target := choice.target
    options := options
    libDirs := artifact.libDirs
    libs := artifact.libs
    extraLinkArgs := artifact.extraArgs }

/-- Compile sources and link them. -/
def build (runner : ToolRunner σ) (config : Configuration) (s : Session) (choice : BuildChoice)
    (artifact : ArtifactChoice) (w : Workshop σ) : Except Failure Report × Workshop σ :=
  match planOf w.files choice artifact with
  | .error e => (.error e, w)
  | .ok plan =>
    let jobs := choice.jobs <|> config.build.jobs
    let kept := choice.database || config.build.compileCommands
    let w := { w with database := if kept then some .empty else none }
    match Build.build s runner jobs plan w with
    | (.error e, w) => (.error (.build e), w)
    | (.ok outcome, w) =>
      let files := match w.database with
        | some db =>
          (db.save w.files (choice.outDir.join ⟨"compile_commands.json"⟩) w.limits).2
        | none => w.files
      let said := s!"    Finished `{plan.options.artifact.name}` -> {outcome.artifact.text} " ++
        s!"({outcome.records.length} objects)\n"
      (.ok { stderr := said }, w.withFiles files)

/-! ## Dependency files -/

/-- The record that saved output of a compiler describes: a report if the file is named so, or
else include notes. -/
def recordOf (files : FileSystem) (choice : DepsChoice) : Except Failure Dependency.Record := do
  let exclusions := Dependency.Exclusions.ofRoots choice.exclude
  let load := (files.loadText choice.input).mapError Failure.file
  if choice.input.hasExtension "json" then
    match Dependency.Report.ofText? (← load) with
    | none => .error (.malformedReport choice.input)
    | some report =>
      let source := choice.source.getD ⟨report.source⟩
      return Dependency.record exclusions choice.object source report.headers
  else
    match choice.source with
    | none => .error .sourceRequired
    | some source =>
      return Dependency.record exclusions choice.object source (Dependency.notedHeaders (← load))

/-- Write a dependency file, or show it. -/
def deps (choice : DepsChoice) (files : FileSystem) (limits : Limits) :
    Except Failure Report × FileSystem :=
  match recordOf files choice with
  | .error e => (.error e, files)
  | .ok record =>
    match choice.output with
    | none => (.ok { stdout := record.makefile }, files)
    | some path =>
      match record.save files path limits with
      | (.error e, files) => (.error (.build e), files)
      | (.ok (), files) =>
        let said := s!"    Wrote {path.text} ({record.headers.length} headers)\n"
        (.ok { stderr := said }, files)

/-! ## All commands -/

/-- Carry out a command that needs a session. -/
def inSession (h : Host) (runner : ToolRunner σ) (choice : SessionChoice)
    (command : Configuration → Session → Workshop σ → Except Failure Report × Workshop σ)
    (w : Workshop σ) : Except Failure Report × Workshop σ :=
  let config := Configuration.ofProject h w.files w.files.currentPath
  match openSession h runner config choice w with
  | (.error e, w) => (.error e, w)
  | (.ok session, w) => command config session w

/-- Carry out a command. -/
def Invocation.carryOut (h : Host) (runner : ToolRunner σ) (i : Invocation) (w : Workshop σ) :
    Except Failure Report × Workshop σ :=
  match i with
  | .env session vars =>
    inSession h runner session (fun _ s w => (.ok { stdout := describe s vars }, w)) w
  | .compile session choice =>
    inSession h runner session (fun _ s w => Cli.compile runner s choice w) w
  | .link session target objects artifact =>
    inSession h runner session (fun _ s w => Cli.link runner s target objects artifact w) w
  | .build session choice artifact =>
    inSession h runner session (fun config s w => Cli.build runner config s choice artifact w) w
  | .quote args => (.ok { stdout := linesText [CommandLine.join args] }, w)
  | .split line => (.ok { stdout := linesText (CommandLine.split line) }, w)
  | .deps choice =>
    let (result, files) := Cli.deps choice w.files w.limits
    (result, w.withFiles files)

/-- How the program is called. -/
def usageText : String :=
  linesText <|
    ["Usage: vcbridge [--verbose] [--no-color] COMMAND [OPTIONS] [ARGS]", "", "Commands:"] ++
      Invocation.commands.map (s!"  {·}")

/-- What is written when the arguments ask for nothing to carry out. -/
def Stop.transcript : Stop → Transcript
  | .usage e => ⟨2, "", s!"error: {e.message}\n\n" ++ usageText⟩
  | .help => ⟨0, usageText, ""⟩
  | .version => ⟨0, "vcbridge 0.1.0\n", ""⟩

/-- Carry out what the arguments ask for. `terminal` says whether standard error is one, so that
colours make sense. -/
def run (h : Host) (runner : ToolRunner σ) (terminal : Bool) (args : List String)
    (w : Workshop σ) : Transcript × Workshop σ :=
  match Invocation.ofArgs args with
  | .error stop => (stop.transcript, w)
  | .ok (flags, invocation) =>
    match invocation.carryOut h runner w with
    | (.ok report, w) => (⟨0, report.stdout, report.stderr⟩, w)
    | (.error failure, w) =>
      (⟨1, "", failure.report (terminal && !flags.contains "no-color")⟩, w)

end Clinker.Cli

import Clinker.Cli.Grammar
import Clinker.Path

/-!
# What a user asks for

An `Invocation` is a command with everything its arguments say, ready to be carried out. Names of
architectures and the like are still texts: whether they are known is found out later, so that
the order of complaints does not depend on the order of arguments.
-/

namespace Clinker.Cli

/-- Options that select the session. -/
structure SessionChoice where
  arch : Option String
  release : Bool
  /-- Whether a developer prompt's environment is ignored. -/
  noDevPrompt : Bool
deriving DecidableEq, Repr

/-- Options about the artifact that `link` and `build` share. -/
structure ArtifactChoice where
  kind : String
  subsystem : Option String
  libDirs : List Path
  libs : List String
  keptSymbols : List String
  manifest : Option Path
  extraArgs : List String
deriving DecidableEq, Repr

/-- Arguments of `compile`. -/
structure CompileChoice where
  source : Path
  object : Path
  depFile : Option Path
  macros : List String
  includeDirs : List Path
  runtime : String
  /-- Where to write how the source was compiled. -/
  fragment : Option Path
deriving DecidableEq, Repr

/-- Arguments of `build`. -/
structure BuildChoice where
  /-- Files or patterns. -/
  sources : List String
  target : Path
  outDir : Path
  macros : List String
  includeDirs : List Path
  runtime : String
  jobs : Option Nat
  /-- Whether to write a compilation database. -/
  database : Bool
deriving DecidableEq, Repr

/-- Arguments of `deps`. -/
structure DepsChoice where
  input : Path
  object : Path
  source : Option Path
  exclude : List Path
  output : Option Path
deriving DecidableEq, Repr

/-- A command to carry out. -/
inductive Invocation
  /-- Show the session, and its variables if asked. -/
  | env (session : SessionChoice) (vars : Bool)
  | compile (session : SessionChoice) (choice : CompileChoice)
  | link (session : SessionChoice) (target : Path) (objects : List Path)
      (artifact : ArtifactChoice)
  | build (session : SessionChoice) (choice : BuildChoice) (artifact : ArtifactChoice)
  /-- Join arguments into a command line. -/
  | quote (args : List String)
  /-- Cut a command line into arguments. -/
  | split (line : String)
  /-- Write a dependency file from what a compiler has left. -/
  | deps (choice : DepsChoice)
deriving DecidableEq, Repr

/-! ## Grammars -/

/-- Options that every command understands. -/
def globalRules : List OptionRule := [⟨"verbose", some 'v', .flag⟩, ⟨"no-color", none, .flag⟩]

/-- Options that select the session. -/
def sessionRules : List OptionRule :=
  [⟨"arch", none, .single .text⟩, ⟨"release", some 'r', .flag⟩, ⟨"no-dev-prompt", none, .flag⟩]

/-- Options about the artifact. -/
def artifactRules : List OptionRule :=
  [⟨"type", none, .single .text⟩, ⟨"interface", none, .single .text⟩,
   ⟨"lib-path", some 'L', .many .path⟩, ⟨"lib", some 'l', .many .text⟩,
   ⟨"force-link", none, .many .text⟩, ⟨"manifest", none, .single .path⟩]

/-- Options about how sources are compiled. -/
def sourceRules : List OptionRule :=
  [⟨"define", some 'D', .many .text⟩, ⟨"include", some 'I', .many .path⟩,
   ⟨"runtime", none, .single .text⟩]

/-- The option for what a command makes. -/
def outputRule : OptionRule := ⟨"output", some 'o', .single .path⟩

/-- The grammar of `env`. -/
def envGrammar : Grammar :=
  ⟨globalRules ++ sessionRules ++ [⟨"vars", none, .flag⟩], .none, false⟩

/-- The grammar of `compile`. -/
def compileGrammar : Grammar :=
  ⟨globalRules ++ sessionRules ++ sourceRules ++
    [outputRule, ⟨"dep-file", none, .single .path⟩, ⟨"compile-commands", none, .single .path⟩],
   .single .path, false⟩

/-- The grammar of `link`. -/
def linkGrammar : Grammar :=
  ⟨globalRules ++ sessionRules ++ artifactRules ++ [outputRule], .many .path, true⟩

/-- The grammar of `build`. -/
def buildGrammar : Grammar :=
  ⟨globalRules ++ sessionRules ++ artifactRules ++ sourceRules ++
    [outputRule, ⟨"out-dir", none, .single .path⟩, ⟨"jobs", some 'j', .single .count⟩,
     ⟨"emit-compile-commands", none, .flag⟩],
   .many .text, true⟩

/-- The grammar of `quote`. -/
def quoteGrammar : Grammar :=
  ⟨globalRules ++ [⟨"split", none, .single .text⟩], .verbatim, false⟩

/-- The grammar of `deps`. -/
def depsGrammar : Grammar :=
  ⟨globalRules ++
    [outputRule, ⟨"object", none, .single .path⟩, ⟨"source", none, .single .path⟩,
     ⟨"exclude", none, .many .path⟩],
   .single .path, false⟩

/-! ## From arguments to invocations -/

namespace Reading

/-- A path that an option gives. -/
def path? (r : Reading) (option : String) : Option Path := (r.value? option).map Path.mk

/-- The paths that an option gives. -/
def pathsOf (r : Reading) (option : String) : List Path := (r.valuesOf option).map Path.mk

/-- The positional arguments, of which there must be one at least. -/
def somePositionals (r : Reading) (name : String) : Except Stop (List String) :=
  if r.positionals.isEmpty then .error (.usage (.missingArgument name)) else .ok r.positionals

/-- The only positional argument, as a path. -/
def onlyPath (r : Reading) (name : String) : Except Stop Path :=
  match r.positionals with
  | p :: _ => .ok ⟨p⟩
  | [] => .error (.usage (.missingArgument name))

/-- The options that select the session. -/
def sessionChoice (r : Reading) : SessionChoice :=
  ⟨r.value? "arch", r.has "release", r.has "no-dev-prompt"⟩

/-- The options about the artifact. -/
def artifactChoice (r : Reading) : ArtifactChoice where
  kind := (r.value? "type").getD "executable"
  subsystem := r.value? "interface"
  libDirs := r.pathsOf "lib-path"
  libs := r.valuesOf "lib"
  keptSymbols := r.valuesOf "force-link"
  manifest := r.path? "manifest"
  extraArgs := r.trailing

/-- The name of the runtime library. -/
def runtimeName (r : Reading) : String := (r.value? "runtime").getD "dynamic"

end Reading

namespace Invocation

/-- The invocation of `env`. -/
def ofEnvArgs (args : List String) : Except Stop (Reading × Invocation) := do
  let r ← envGrammar.read args
  return (r, .env r.sessionChoice (r.has "vars"))

/-- The invocation of `compile`. -/
def ofCompileArgs (args : List String) : Except Stop (Reading × Invocation) := do
  let r ← compileGrammar.read args
  let source ← r.onlyPath "SOURCE"
  let object ← r.required "output"
  return (r, .compile r.sessionChoice {
    source := source
    object := ⟨object⟩
    depFile := r.path? "dep-file"
    macros := r.valuesOf "define"
    includeDirs := r.pathsOf "include"
    runtime := r.runtimeName
    fragment := r.path? "compile-commands" })

/-- The invocation of `link`. -/
def ofLinkArgs (args : List String) : Except Stop (Reading × Invocation) := do
  let r ← linkGrammar.read args
  let objects ← r.somePositionals "OBJECTS"
  let target ← r.required "output"
  return (r, .link r.sessionChoice ⟨target⟩ (objects.map Path.mk) r.artifactChoice)

/-- The invocation of `build`. -/
def ofBuildArgs (args : List String) : Except Stop (Reading × Invocation) := do
  let r ← buildGrammar.read args
  let sources ← r.somePositionals "SOURCES"
  let target ← r.required "output"
  let choice : BuildChoice := {
    sources := sources
    target := ⟨target⟩
    outDir := (r.path? "out-dir").getD ⟨"build"⟩
    macros := r.valuesOf "define"
    includeDirs := r.pathsOf "include"
    runtime := r.runtimeName
    jobs := (r.value? "jobs").bind count?
    database := r.has "emit-compile-commands" }
  return (r, .build r.sessionChoice choice r.artifactChoice)

/-- The invocation of `quote`, which either joins or splits. -/
def ofQuoteArgs (args : List String) : Except Stop (Reading × Invocation) := do
  let r ← quoteGrammar.read args
  match r.value? "split", r.positionals with
  | none, args => return (r, .quote args)
  | some line, [] => return (r, .split line)
  | some _, _ :: _ => .error (.usage (.conflict "--split" "ARGS"))

/-- The invocation of `deps`. -/
def ofDepsArgs (args : List String) : Except Stop (Reading × Invocation) := do
  let r ← depsGrammar.read args
  let input ← r.onlyPath "INPUT"
  let object ← r.required "object"
  return (r, .deps {
    input := input
    object := ⟨object⟩
    source := r.path? "source"
    exclude := r.pathsOf "exclude"
    output := r.path? "output" })

/-- The invocation of the command of a name. -/
def ofCommandArgs (command : String) (args : List String) : Except Stop (Reading × Invocation) :=
  match command with
  | "env" => ofEnvArgs args
  | "compile" => ofCompileArgs args
  | "link" => ofLinkArgs args
  | "build" => ofBuildArgs args
  | "quote" => ofQuoteArgs args
  | "deps" => ofDepsArgs args
  | _ => .error (.usage (.unknownCommand command))

/-- The names of all commands. -/
def commands : List String := ["env", "compile", "link", "build", "quote", "deps"]

/-- The grammar of what stands in front of the command. -/
def frontGrammar : Grammar := ⟨globalRules ++ [⟨"version", some 'V', .flag⟩], .none, false⟩

/-- A request for help on a command, or on all of them. -/
def helpOn : List String → Stop
  | [] => .help
  | [command] =>
    if command == "help" || commands.contains command then .help
    else .usage (.unknownCommand command)
  | _ :: extra :: _ => .usage (.unexpectedArgument extra)

/-- The invocation that arguments spell, given the options in front of them. -/
def ofArgsAfter (r : Reading) : List String → Except Stop (Reading × Invocation)
  | [] => .error (.usage .missingCommand)
  | arg :: rest =>
    match Token.ofArg arg with
    | .separator => .error (.usage .missingCommand)
    | .long name value => do
      let (r, _) ← r.takeLong frontGrammar name value
      ofArgsAfter r rest
    | .letters cs => do
      let (r, _) ← r.takeLetters frontGrammar cs
      ofArgsAfter r rest
    | .plain command => if command == "help" then .error (helpOn rest) else do
      let (own, invocation) ← ofCommandArgs command rest
      return ({ own with flags := r.flags ++ own.flags }, invocation)

/-- The invocation that arguments spell, with the flags that were given anywhere. -/
def ofArgs (args : List String) : Except Stop (List String × Invocation) :=
  (ofArgsAfter {} args).map fun (r, invocation) => (r.flags, invocation)

end Invocation

end Clinker.Cli

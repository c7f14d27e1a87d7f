import Clinker.Command
import Clinker.Dependency.Exclusions
import Clinker.Environment
import Clinker.Target.Variant
import Clinker.Text.Quoted

/-!
# Sessions

A session is a toolchain set up for one architecture and variant: where its tools are, the
environment they run in, and the directories whose headers nobody needs to record. It never
changes. A job for another architecture needs another session.
-/

namespace Clinker

/-- A program of the toolchain. -/
inductive Tool
  | compiler
  | linker
  | archiver
  | resourceCompiler
  | interfaceCompiler
deriving DecidableEq, Repr

namespace Tool

/-- All tools, in the order they are listed to users. -/
def all : List Tool := [compiler, linker, archiver, resourceCompiler, interfaceCompiler]

/-- The file name of a tool. -/
def executable : Tool → String
  | compiler => "cl.exe"
  | linker => "link.exe"
  | archiver => "lib.exe"
  | resourceCompiler => "rc.exe"
  | interfaceCompiler => "midl.exe"

end Tool

/-- Where the tools are. -/
structure ToolPaths where
  compiler : Path
  linker : Path
  archiver : Path
  resourceCompiler : Path
  interfaceCompiler : Path
deriving DecidableEq, Repr

namespace ToolPaths

/-- Where one tool is. -/
def get (paths : ToolPaths) : Tool → Path
  | .compiler => paths.compiler
  | .linker => paths.linker
  | .archiver => paths.archiver
  | .resourceCompiler => paths.resourceCompiler
  | .interfaceCompiler => paths.interfaceCompiler

/-- Where one tool is on the search path that `script` has set up. -/
def locate (env : Environment) (fs : FileSystem) (script : Path) (tool : Tool) :
    Except BuildError Path :=
  match env.findTool? fs tool.executable with
  | some p => .ok p
  | none =>
    .error (.badConfiguration
      s!"`{tool.executable}` is not on the PATH set up by {script.text}")

/-- Where all tools are, or the first one that is missing. -/
def resolve (env : Environment) (fs : FileSystem) (script : Path) :
    Except BuildError ToolPaths := do
  let find := locate env fs script
  return ⟨← find .compiler, ← find .linker, ← find .archiver, ← find .resourceCompiler,
    ← find .interfaceCompiler⟩

end ToolPaths

/-- The directories a session knows. -/
structure Roots where
  /-- The installation. -/
  vendor : Path
  /-- The platform's development kit. -/
  sdk : Path
  companion : Option Path
  /-- The compiler's own headers. -/
  systemInclude : Path
  /-- Further directories whose headers are not recorded. -/
  extraExclusions : List Path
deriving DecidableEq, Repr

/-- A toolchain set up for one architecture and variant. -/
structure Session where
  arch : Architecture
  variant : Variant
  tools : ToolPaths
  env : Environment
  roots : Roots
deriving DecidableEq, Repr

namespace Session

/-- The directories whose headers are not recorded. -/
def exclusions (s : Session) : Dependency.Exclusions :=
  Dependency.Exclusions.ofRoots <|
    [s.roots.vendor, s.roots.sdk] ++ s.roots.companion.toList ++ s.roots.extraExclusions

/-- Refuse a job for another architecture. -/
def checkArchitecture (s : Session) (requested : Architecture) : Except BuildError Unit :=
  if requested == s.arch then .ok () else .error (.wrongArchitecture s.arch requested)

/-- A command for a tool, in the session's environment. -/
def command (s : Session) (tool : Tool) (args : List String) : Command :=
  .plain (s.tools.get tool) args s.env.vars

/-- The include directory that the interface compiler has to be told. -/
def interfaceIncludeArgs (s : Session) : List String := ["/I", s.roots.systemInclude.text]

/-- The architecture in a summary. -/
def archLabel (s : Session) : String :=
  match s.arch with
  | .x86 => "X86"
  | .x64 => "X64"
  | .arm64 => "Arm64"

/-- The variant in a summary. -/
def variantLabel (s : Session) : String :=
  match s.variant with
  | .debug => "Debug"
  | .release => "Release"

/-- The session on one line. -/
def summary (s : Session) : String :=
  let compiler := Text.quoted s.tools.compiler.text
  s!"MsvcToolchain \x7b arch: {s.archLabel}, variant: {s.variantLabel}, compiler: {compiler} \x7d"

end Session

end Clinker

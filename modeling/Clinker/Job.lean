import Clinker.Error
import Clinker.Target.Variant

/-!
# Compile jobs and link jobs

What a caller asks for: one source to compile, or one artifact to link. The kind of a source
follows from its extension and decides which tools compile it.
-/

namespace Clinker

/-- What a source is. -/
inductive SourceKind
  | resourceScript
  | interfaceDefinition
  /-- Code for the C++ compiler. -/
  | ordinary
deriving DecidableEq, Repr

namespace SourceKind

/-- The kind of a source by its extension, whatever its case. -/
def ofPath (p : Path) : SourceKind :=
  if p.hasExtension "rc" then resourceScript
  else if p.hasExtension "idl" then interfaceDefinition
  else ordinary

/-- The extension of what a source is compiled to. -/
def objectExtension : SourceKind → String
  | resourceScript => "res"
  | interfaceDefinition => "tlb"
  | ordinary => "obj"

end SourceKind

/-- One source to compile. -/
structure CompileJob where
  source : Path
  object : Path
  depFile : Path
  macros : List String
  includeDirs : List Path
  /-- Search paths that have no meaning for this toolchain. -/
  frameworkPaths : List Path
  runtime : Runtime
deriving DecidableEq, Repr

namespace CompileJob

/-- What the source is. -/
def kind (job : CompileJob) : SourceKind := SourceKind.ofPath job.source

/-- Where the compiler writes its dependency report. -/
def report (job : CompileJob) : Path := job.depFile.suffixed ".json"

end CompileJob

/-- What is linked. -/
inductive ArtifactKind
  | dynamicLibrary
  | staticLibrary
  | executable
deriving DecidableEq, Repr

namespace ArtifactKind

/-- The canonical name. -/
def name : ArtifactKind → String
  | dynamicLibrary => "dynamic"
  | staticLibrary => "static"
  | executable => "executable"

/-- The kind a user names. -/
def ofName (name : String) : Except UnknownName ArtifactKind :=
  match Text.asciiLower name with
  | "dynamic" | "dll" | "sharedlib" => .ok dynamicLibrary
  | "static" | "staticlib" | "lib" => .ok staticLibrary
  | "executable" | "exe" => .ok executable
  | _ => .error (.artifact name)

end ArtifactKind

/-- How a program presents itself. -/
inductive Subsystem
  | console
  | windows
deriving DecidableEq, Repr

namespace Subsystem

/-- The linker option, which also names the oldest system the program runs on. -/
def flag : Subsystem → String
  | console => "/SUBSYSTEM:CONSOLE,6.01"
  | windows => "/SUBSYSTEM:WINDOWS,6.01"

/-- The subsystem a user names. -/
def ofName (name : String) : Except UnknownName Subsystem :=
  match Text.asciiLower name with
  | "console" => .ok console
  | "windowed" | "gui" | "windows" => .ok windows
  | _ => .error (.subsystem name)

end Subsystem

/-- Choices about an artifact. Only the kind matters for a static library. -/
structure LinkOptions where
  artifact : ArtifactKind
  subsystem : Subsystem
  /-- Symbols kept although nothing refers to them, undecorated. -/
  keptSymbols : List String
  manifest : Option Path
deriving DecidableEq, Repr

namespace LinkOptions

/-- The options that names spell. The subsystem is read only where there is one, so that a static
library never fails on it. -/
def ofNames (artifact : String) (subsystem : Option String) : Except UnknownName LinkOptions := do
  let kind ← ArtifactKind.ofName artifact
  match kind, subsystem with
  | .staticLibrary, _ | _, none => return ⟨kind, .console, [], none⟩
  | _, some name => return ⟨kind, ← Subsystem.ofName name, [], none⟩

end LinkOptions

/-- One artifact to link. -/
structure LinkJob where
  target : Path
  objects : List Path
  libDirs : List Path
  libs : List String
  /-- Frameworks and their search paths, which have no meaning for this toolchain. -/
  frameworks : List String
  frameworkPaths : List Path
  /-- Arguments after all others. -/
  extraArgs : List String
  options : LinkOptions
deriving DecidableEq, Repr

/-- The error of a name that was expected to be known. -/
def UnknownName.toBuildError (e : UnknownName) : BuildError := .badConfiguration e.message

end Clinker

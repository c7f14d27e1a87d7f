import Clinker.Target.UnknownName
import Clinker.Text.Basic

/-!
# Build variants and the runtime library

A variant fixes the options of every tool. Debug information always goes into the object itself
(`/Z7`), so compiles that run at the same time never write to one database.
-/

namespace Clinker

/-- How code is optimised and which checks it carries. -/
inductive Variant
  | debug
  | release
deriving DecidableEq, Repr

/-- Which form of the C runtime library the code is linked with. -/
inductive Runtime
  | dynamic
  | static
deriving DecidableEq, Repr

namespace Variant

/-- The canonical name. -/
def name : Variant → String
  | debug => "debug"
  | release => "release"

/-- Whether this is the variant for debugging. -/
def isDebug : Variant → Bool
  | debug => true
  | release => false

/-- The variant a user names. -/
def ofName (name : String) : Except UnknownName Variant :=
  match Text.asciiLower name with
  | "debug" | "dev" => .ok debug
  | "release" => .ok release
  | _ => .error (.variant name)

/-- Macros that every compile defines. -/
def platformMacros : List String :=
  ["WIN32", "_WINDOWS", "UNICODE", "_UNICODE", "NOMINMAX", "WINVER=0x0601", "_WIN32_WINNT=0x0601"]

/-- Macros of the variant alone. -/
def ownMacros : Variant → List String
  | debug => ["_DEBUG"]
  | release => ["NDEBUG"]

/-- Optimisation and debug options of the compiler. -/
def compilerFlags : Variant → List String
  | debug => ["/Od", "/Z7", "/RTC1"]
  | release => ["/O2", "/Oi", "/GL", "/Gy", "/Z7"]

/-- Options of the linker. -/
def linkerFlags : Variant → List String
  | debug => ["/DEBUG:FASTLINK", "/INCREMENTAL"]
  | release => ["/DEBUG:FULL", "/OPT:REF", "/OPT:ICF", "/LTCG", "/INCREMENTAL:NO"]

/-- Options of the archiver. Objects made for link-time code generation need an archive that
knows it. -/
def archiverFlags : Variant → List String
  | debug => []
  | release => ["/LTCG"]

/-- The macros of a compile: those of the platform, of the variant and of the caller. -/
def macros (v : Variant) (own : List String) : List String := platformMacros ++ v.ownMacros ++ own

end Variant

namespace Runtime

/-- The canonical name. -/
def name : Runtime → String
  | dynamic => "dynamic"
  | static => "static"

/-- The runtime library a user names. -/
def ofName (name : String) : Except UnknownName Runtime :=
  match Text.asciiLower name with
  | "dynamic" | "shared" => .ok dynamic
  | "static" => .ok static
  | _ => .error (.runtime name)

/-- The compiler option for a runtime library. -/
def flag : Runtime → Variant → String
  | static, .debug => "/MTd"
  | static, .release => "/MT"
  | dynamic, .debug => "/MDd"
  | dynamic, .release => "/MD"

end Runtime

end Clinker

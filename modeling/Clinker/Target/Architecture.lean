import Clinker.Target.UnknownName
import Clinker.Text.Basic

/-!
# Target architectures

The processors code is built for, with the name each tool of the toolchain has for them.
-/

namespace Clinker

/-- A processor that code is built for. -/
inductive Architecture
  | x86
  | x64
  | arm64
deriving DecidableEq, Repr

namespace Architecture

/-- All architectures, in the order they are listed to users. -/
def all : List Architecture := [x86, x64, arm64]

/-- The canonical name. -/
def name : Architecture → String
  | x86 => "x86"
  | x64 => "x64"
  | arm64 => "arm64"

/-- The argument that selects the target in the environment setup script. -/
def setupArgument : Architecture → String
  | x86 => "x86"
  | x64 => "x64"
  | arm64 => "x64_arm64"

/-- The linker's name for the target. -/
def machine : Architecture → String
  | x86 => "X86"
  | x64 => "X64"
  | arm64 => "ARM64"

/-- The interface compiler's name for the target. -/
def interfaceTarget : Architecture → String
  | x86 => "win32"
  | x64 => "x64"
  | arm64 => "arm64"

/-- Whether pointers have 32 bits. -/
def is32Bit : Architecture → Bool
  | x86 => true
  | x64 | arm64 => false

/-- The name a C symbol has in an object file. -/
def decorate (arch : Architecture) (symbol : String) : String :=
  if arch.is32Bit then "_" ++ symbol else symbol

/-- The architecture a user names, in any of its common spellings. -/
def ofName (name : String) : Except UnknownName Architecture :=
  match Text.asciiLower name with
  | "x86" | "i686" | "win32" => .ok x86
  | "x64" | "x86_64" | "amd64" => .ok x64
  | "arm64" | "aarch64" => .ok arm64
  | _ => .error (.architecture name)

/-- The architecture a developer prompt says it targets. -/
def ofPrompt? (name : String) : Option Architecture :=
  match Text.asciiLower name with
  | "x86" => some x86
  | "x64" | "amd64" => some x64
  | "arm64" => some arm64
  | _ => none

end Architecture

end Clinker

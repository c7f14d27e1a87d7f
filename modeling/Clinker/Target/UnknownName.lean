/-!
# Names that stand for nothing

Architectures, variants, runtime libraries, artifact kinds and subsystems are named by users. A
name outside the known spellings is an error that says what would have been understood.
-/

namespace Clinker

/-- A name of something that does not exist. -/
inductive UnknownName
  | architecture (name : String)
  | variant (name : String)
  | runtime (name : String)
  | artifact (name : String)
  | subsystem (name : String)
deriving DecidableEq, Repr

/-- What is said of an unknown name. -/
def UnknownName.message : UnknownName → String
  | .architecture n => s!"unknown architecture '{n}'; expected 'x86', 'x64', or 'arm64'"
  | .variant n => s!"invalid build variant '{n}'; expected 'debug' or 'release'"
  | .runtime n => s!"invalid runtime linkage '{n}'; expected 'static' or 'dynamic'"
  | .artifact n =>
    s!"unknown target type '{n}'; expected 'dynamic', 'static', or 'executable'"
  | .subsystem n => s!"unknown interface kind '{n}'; expected 'console' or 'windowed'"

end Clinker

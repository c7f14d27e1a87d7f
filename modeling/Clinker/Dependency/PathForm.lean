import Clinker.Text.Casing
import Clinker.Text.Space

/-!
# The form of a path for comparison

Windows does not distinguish the case of path names, and takes `/` and `\` for the same
separator. Paths are compared in a form without these differences: white space around them is
dropped, every separator is `/`, letters are in lower case, and there is no separator at the end
unless the path is nothing else.
-/

namespace Clinker.Dependency

/-- A path with `/` for every separator. -/
def forwardSeparators (cs : List Char) : List Char :=
  cs.map fun c => if c == '\\' then '/' else c

/-- A path without separators at its end, of which one stays if there is nothing else. -/
def dropEndSeparators (cs : List Char) : List Char :=
  let kept := Text.dropEndWhile (· == '/') cs
  if kept.isEmpty && !cs.isEmpty then ['/'] else kept

/-- The form of a path for comparison. -/
def normalChars (cs : List Char) : List Char :=
  dropEndSeparators (Text.lowerChars (forwardSeparators (Text.trimChars cs)))

/-- The form of a path for comparison. -/
def normalForm : String → String := Text.onChars normalChars

@[simp] theorem toList_normalForm (path : String) :
    (normalForm path).toList = normalChars path.toList := by
  simp [normalForm]

end Clinker.Dependency

import Clinker.Dependency.PathForm
import Clinker.Path

/-!
# Directories whose headers are not recorded

The headers of the toolchain, of the platform and of prebuilt dependencies number in the
thousands and change only when the installation does. Their directories are excluded: a path is
excluded when it is such a directory or lies below one, both in the form for comparison.
-/

namespace Clinker.Dependency

/-- Excluded directories in the form for comparison, none of them empty, each once. -/
structure Exclusions where
  roots : List String
deriving DecidableEq, Repr

/-- Whether a path is a directory or is continued after it by a separator. -/
def liesUnder : List Char → List Char → Bool
  | [], [] => true
  | [], c :: _ => c == '/'
  | _ :: _, [] => false
  | r :: root, c :: path => r == c && liesUnder root path

namespace Exclusions

/-- Nothing is excluded. -/
def empty : Exclusions := ⟨[]⟩

/-- Exclude one more directory. -/
def add (x : Exclusions) (root : Path) : Exclusions :=
  let form := normalForm root.text
  if form.isEmpty || x.roots.contains form then x else ⟨x.roots ++ [form]⟩

/-- The directories given, in order. -/
def ofRoots (roots : List Path) : Exclusions := roots.foldl add empty

/-- Whether nothing is excluded. -/
def isEmpty (x : Exclusions) : Bool := x.roots.isEmpty

/-- Whether a path in the form for comparison is excluded. -/
def excludes (x : Exclusions) (form : String) : Bool :=
  x.roots.any fun root => liesUnder root.toList form.toList

@[simp] theorem excludes_empty (form : String) : empty.excludes form = false := rfl

end Exclusions

end Clinker.Dependency

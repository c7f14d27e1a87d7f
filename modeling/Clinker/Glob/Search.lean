import Clinker.FileSystem.Basic
import Clinker.Glob.Pattern

/-!
# Finding files by pattern

A search walks the pattern component by component. A name without wildcards is looked up, a
wildcard is tried on every entry of a directory, and `**` on everything below it. Results are
written the way the pattern is: `..` stays, and a `.` in front is dropped. What is found by
several patterns is sorted by components, and each path appears once.
-/

namespace Clinker

/-- A text that was to be a pattern and is none. -/
structure BadPattern where
  text : String
deriving DecidableEq, Repr

/-- What is said of it. -/
def BadPattern.message (e : BadPattern) : String := s!"invalid glob pattern: {e.text}"

namespace Glob

/-- Whether a path is written as the working directory. -/
def isHere (p : Path) : Bool := p.same ⟨"."⟩

/-- A name below a directory, without a needless `.` in front. -/
def below (p : Path) (name : String) : Path := if isHere p then ⟨name⟩ else p.join ⟨name⟩

/-- The entries of a directory, by name. -/
def entriesOf (fs : FileSystem) (p : Path) : List Path :=
  if fs.isDirectory p then
    match fs.locate p with
    | .error _ => []
    | .ok loc => (((fs.children loc).map (·.1)).mergeSort Text.le).map (below p)
  else []

/-- Everything below a path, to a depth of `depth`, each directory before its content. -/
def descendantsTo (fs : FileSystem) : Nat → Path → List Path
  | 0, _ => []
  | depth + 1, p => (entriesOf fs p).flatMap fun q => q :: descendantsTo fs depth q

/-- Everything below a path. A tree is no deeper than it has entries. -/
def descendants (fs : FileSystem) (p : Path) : List Path :=
  descendantsTo fs (fs.entries.length + 1) p

/-- The directories `..` and `.`, as far as a wildcard that starts with a dot stands for them. -/
def dotNames (tokens : List Token) : List String :=
  if tokens.head? == some (.literal '.') then
    ["..", "."].filter fun s => accepts tokens s.toList
  else []

/-- What the rest of a pattern finds from a path. -/
def find (fs : FileSystem) : List Piece → Path → List Path
  | [], p => [p]
  | .exact s :: ps, p =>
    let q := below p s
    if s == "." || s == ".." then (if fs.isDirectory p then find fs ps q else [])
    else if fs.pathExists q then find fs ps q else []
  | .wild ts :: ps, p =>
    if fs.isDirectory p then
      (dotNames ts).flatMap (fun s => find fs ps (p.join ⟨s⟩)) ++
        (entriesOf fs p).flatMap fun q =>
          if q.fileName?.any fun n => accepts ts n.toList then find fs ps q else []
    else []
  | [.anyDepth], p => (descendants fs p).filter fs.isDirectory
  | .anyDepth :: c :: ps, p =>
    (descendants fs p).flatMap fun q => if q.fileName?.any c.accepts then find fs ps q else []

/-- The files a pattern finds. -/
def filesMatching (fs : FileSystem) (pattern : Pattern) : List Path :=
  if pattern.wantsDirectory then []
  else (find fs pattern.pieces ⟨if pattern.absolute then "/" else "."⟩).filter fs.isFile

/-- Each of some sorted paths once; of paths with equal components the first stays. -/
def dropRepeats : List Path → List Path
  | [] => []
  | p :: ps =>
    match dropRepeats ps with
    | [] => [p]
    | q :: qs => if p.same q then p :: qs else p :: q :: qs

/-- The files that patterns find relative to a directory, sorted, each once. -/
def files (fs : FileSystem) (base : Path) (patterns : List String) :
    Except BadPattern (List Path) := do
  let found ← patterns.mapM fun text =>
    match Pattern.ofText? (base.join ⟨text⟩).text with
    | none => .error ⟨text⟩
    | some pattern => .ok (filesMatching fs pattern)
  return dropRepeats (found.flatten.mergeSort Path.le)

end Glob

end Clinker

import Clinker.Text.Basic

/-!
# Paths

A path is kept and shown exactly as it was written. Its structure is read from the text: `/`
separates components, repeated separators and `.` components say nothing, except that a `.` in
front of a relative path is a component of its own. A backslash is an ordinary character.

Two paths name the same place in writing when their components agree (`Path.same`), and paths
are ordered by their components (`Path.le`).
-/

namespace Clinker

/-- A path, as written. -/
structure Path where
  text : String
deriving DecidableEq, Repr, Inhabited

/-- One step of a path. The order of the constructors is the order of components. -/
inductive Component
  | root
  | here
  | up
  | name (text : String)
deriving DecidableEq, Repr

namespace Component

/-- The place of a component's kind in the order of components. -/
def rank : Component → Nat
  | root => 0
  | here => 1
  | up => 2
  | name _ => 3

/-- Components are ordered by kind, and names among themselves as texts. -/
def lt : Component → Component → Bool
  | name a, name b => decide (a < b)
  | a, b => a.rank < b.rank

end Component

namespace Path

/-! ## Reading the text -/

/-- What a path starts with: the root, a `.` of its own, or neither. -/
def front : List Char → List Char
  | '/' :: _ => ['/']
  | ['.'] => ['.']
  | '.' :: '/' :: _ => ['.']
  | _ => []

/-- The text after the front. -/
def body (cs : List Char) : List Char := cs.drop (front cs).length

/-- A body read backwards, without separators and `.` components at its end. -/
def dropIdle : List Char → List Char
  | '/' :: r => dropIdle r
  | ['.'] => []
  | '.' :: '/' :: r => dropIdle r
  | r => r

/-- The last component of a body and what precedes it, both read backwards. -/
def lastPiece (cs : List Char) : List Char × List Char :=
  let r := dropIdle (body cs).reverse
  (r.takeWhile (· != '/'), r.dropWhile (· != '/'))

/-- Whether a path starts at the root. -/
def isAbsolute (p : Path) : Bool := p.text.toList.head? == some '/'

/-- Whether nothing is written. -/
def isEmpty (p : Path) : Bool := p.text.isEmpty

/-- Whether a separator ends the text. -/
def endsInSeparator (p : Path) : Bool := p.text.toList.getLast? == some '/'

/-- The pieces between separators, empty ones left out and `.` kept. -/
def steps (p : Path) : List String := (Text.piecesAt '/' p.text).filter (· != "")

/-- The component a piece of a body stands for. -/
def componentOf (piece : String) : Component :=
  if piece == ".." then .up else .name piece

/-- The components of a path. -/
def components (p : Path) : List Component :=
  let cs := p.text.toList
  let first : List Component :=
    match front cs with
    | ['/'] => [.root]
    | ['.'] => [.here]
    | _ => []
  let rest := (Text.piecesAt '/' (String.ofList (body cs))).filter fun s => s != "" && s != "."
  first ++ rest.map componentOf

/-- The name a path ends in, unless it ends in `..` or has no component. -/
def fileName? (p : Path) : Option String :=
  let name := (lastPiece p.text.toList).1.reverse
  if name.isEmpty || name == ['.', '.'] then none else some (String.ofList name)

/-- A file name cut at its last dot; a dot that comes first cuts nothing. -/
def cutExtension (name : List Char) : List Char × Option (List Char) :=
  let r := name.reverse
  match r.dropWhile (· != '.') with
  | [] => (name, none)
  | _ :: before =>
    if before.isEmpty then (name, none)
    else (before.reverse, some (r.takeWhile (· != '.')).reverse)

/-- The file name without its extension. -/
def stem? (p : Path) : Option String :=
  p.fileName?.map fun n => String.ofList (cutExtension n.toList).1

/-- What follows the last dot of the file name. -/
def extension? (p : Path) : Option String :=
  p.fileName?.bind fun n => (cutExtension n.toList).2.map String.ofList

/-- Whether the extension is `ext`, up to the case of ASCII letters. -/
def hasExtension (p : Path) (ext : String) : Bool :=
  p.extension?.any (Text.sameIgnoringCase ext)

/-- The path without its last component; none for the root and the empty path. -/
def parent? (p : Path) : Option Path :=
  let cs := p.text.toList
  if (lastPiece cs).1.isEmpty then
    if front cs == ['.'] then some ⟨""⟩ else none
  else some ⟨String.ofList (front cs ++ (dropIdle (lastPiece cs).2).reverse)⟩

/-- The parent, if it is written at all. -/
def writtenParent? (p : Path) : Option Path := p.parent?.filter fun q => !q.isEmpty

theorem front_append_body (cs : List Char) : front cs ++ body cs = cs := by
  unfold body front
  split <;> simp

theorem length_dropIdle_le (cs : List Char) : (dropIdle cs).length ≤ cs.length := by
  fun_induction dropIdle cs with
  | case1 r ih => simp only [List.length_cons]; omega
  | case2 => simp
  | case3 r ih => simp only [List.length_cons]; omega
  | case4 => simp

theorem length_lastPiece_le (cs : List Char) :
    (lastPiece cs).1.length + (lastPiece cs).2.length ≤ (body cs).length := by
  have hidle := length_dropIdle_le (body cs).reverse
  rw [List.length_reverse] at hidle
  refine Nat.le_trans (Nat.le_of_eq ?_) hidle
  rw [lastPiece, ← List.length_append, List.takeWhile_append_dropWhile]

/-- A parent is written with fewer characters. -/
theorem length_parent?_lt {p q : Path} (h : p.parent? = some q) :
    q.text.length < p.text.length := by
  have hsplit := congrArg List.length (front_append_body p.text.toList)
  have hpiece := length_lastPiece_le p.text.toList
  have hrest := length_dropIdle_le (lastPiece p.text.toList).2
  rw [List.length_append, String.length_toList] at hsplit
  simp only [parent?] at h
  split at h
  · split at h
    · rename_i hfront
      have := congrArg List.length (eq_of_beq hfront)
      cases h
      simp only [List.length_singleton] at this
      simp only [String.length_empty]
      omega
    · cases h
  · rename_i hne
    have hpos : 0 < (lastPiece p.text.toList).1.length := by
      cases hl : (lastPiece p.text.toList).1 with
      | nil => simp [hl] at hne
      | cons => simp
    cases h
    simp only [String.length_ofList, List.length_append, List.length_reverse]
    omega

/-- The path and the paths above it, nearest first, as far as they are written. -/
def lineage (p : Path) : List Path :=
  if p.isEmpty then []
  else match _above : p.parent? with
    | none => [p]
    | some q => p :: lineage q
termination_by p.text.length
decreasing_by exact length_parent?_lt _above

/-! ## Building paths -/

/-- A path read relative to another; an absolute one stays as it is. -/
def join (a b : Path) : Path :=
  if b.isAbsolute then b
  else if a.isEmpty || a.endsInSeparator then ⟨a.text ++ b.text⟩
  else ⟨a.text ++ "/" ++ b.text⟩

/-- A path with several names below it. -/
def joinAll (a : Path) (names : List String) : Path :=
  names.foldl (fun p n => p.join ⟨n⟩) a

/-- A path with more text at its end. -/
def suffixed (p : Path) (suffix : String) : Path := ⟨p.text ++ suffix⟩

@[simp] theorem text_suffixed (p : Path) (suffix : String) :
    (p.suffixed suffix).text = p.text ++ suffix := rfl

/-! ## Comparing paths -/

/-- Whether two paths have the same components. -/
def same (a b : Path) : Bool := a.components == b.components

/-- Lexicographic order of component lists. -/
def leComponents : List Component → List Component → Bool
  | [], _ => true
  | _ :: _, [] => false
  | a :: as, b :: bs => if a == b then leComponents as bs else a.lt b

/-- The order of paths by their components. -/
def le (a b : Path) : Bool := leComponents a.components b.components

end Path

end Clinker

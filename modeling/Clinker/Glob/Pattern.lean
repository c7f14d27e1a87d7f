import Clinker.Text.Basic

/-!
# File name patterns

A pattern is text with wildcards: `?` stands for one character, `*` for any number of them,
`[…]` for one character of a set and `[!…]` for one outside it. A whole component `**` stands for
any number of directories. Three stars in a row, two stars that are not a whole component and a
bracket that is not closed are no pattern. There is no way to quote a wildcard, but a wildcard in
brackets stands for itself.
-/

namespace Clinker.Glob

/-- An inclusive range of characters. -/
structure CharRange where
  first : Char
  last : Char
deriving DecidableEq, Repr

/-- What one element of a pattern stands for. -/
inductive Token
  | literal (c : Char)
  | anyChar
  | oneOf (negated : Bool) (ranges : List CharRange)
  | anyText
  | anyDepth
deriving DecidableEq, Repr

/-- The ranges between brackets; `a-z` is a range and any other character stands for itself. -/
def ranges : List Char → List CharRange
  | a :: '-' :: b :: rest => ⟨a, b⟩ :: ranges rest
  | a :: rest => ⟨a, a⟩ :: ranges rest
  | [] => []

/-- The characters up to the first `]`, and those after it. -/
def bracketed? (cs : List Char) : Option (List Char × List Char) := Text.cutAt ']' cs

/-- A bracket expression, read after its `[`. Its first character is never the closing bracket. -/
def bracket? : List Char → Option (Token × List Char)
  | '!' :: a :: rest =>
    (bracketed? rest).map fun (set, after) => (.oneOf true (ranges (a :: set)), after)
  | '!' :: [] => none
  | a :: rest => (bracketed? rest).map fun (set, after) => (.oneOf false (ranges (a :: set)), after)
  | [] => none

theorem length_cutAt_lt {sep : Char} {cs before after : List Char}
    (h : Text.cutAt sep cs = some (before, after)) : after.length < cs.length := by
  induction cs generalizing before after with
  | nil => cases h
  | cons c cs ih =>
    simp only [Text.cutAt] at h
    split at h
    · cases h; simp
    · cases hcut : Text.cutAt sep cs with
      | none => simp [hcut] at h
      | some q =>
        obtain ⟨b, a⟩ := q
        simp only [hcut, Option.map_some, Option.some.injEq, Prod.mk.injEq] at h
        have := ih hcut
        rw [← h.2, List.length_cons]
        omega

theorem length_bracket?_lt {cs after : List Char} {t : Token} (h : bracket? cs = some (t, after)) :
    after.length < cs.length := by
  unfold bracket? bracketed? at h
  split at h <;> try cases h
  all_goals
    obtain ⟨⟨b, a⟩, hcut, heq⟩ := Option.map_eq_some_iff.1 h
    have := length_cutAt_lt hcut
    cases heq
    simp only [List.length_cons]
    omega

/-- The elements of a pattern, if it is one. `boundary` says whether a component starts here. -/
def parse (boundary : Bool) : List Char → Option (List Token)
  | [] => some []
  | '*' :: '*' :: '*' :: _ => none
  | ['*', '*'] => if boundary then some [.anyDepth] else none
  | '*' :: '*' :: '/' :: rest => if boundary then (parse true rest).map (.anyDepth :: ·) else none
  | '*' :: '*' :: _ :: _ => none
  | '*' :: rest => (parse false rest).map (.anyText :: ·)
  | '?' :: rest => (parse false rest).map (.anyChar :: ·)
  | '[' :: rest =>
    match _read : bracket? rest with
    | none => none
    | some (t, after) => (parse false after).map (t :: ·)
  | c :: rest => (parse (c == '/') rest).map (.literal c :: ·)
termination_by cs => cs.length
decreasing_by
  all_goals simp only [List.length_cons]
  all_goals first | omega | (have shorter := length_bracket?_lt _read; omega)

/-- Whether one character is what an element stands for. -/
def Token.admits : Token → Char → Bool
  | .literal a, c => a == c
  | .anyChar, _ => true
  | .oneOf negated rs, c => negated != rs.any fun r => r.first ≤ c && c ≤ r.last
  | .anyText, _ => false
  | .anyDepth, _ => false

/-- Whether a pattern stands for a name. -/
def accepts : List Token → List Char → Bool
  | [], name => name.isEmpty
  | .anyText :: ts, [] => accepts ts []
  | .anyText :: ts, c :: name => accepts ts (c :: name) || accepts (.anyText :: ts) name
  | _ :: _, [] => false
  | t :: ts, c :: name => t.admits c && accepts ts name
termination_by ts name => ts.length + name.length

/-! ## Components -/

/-- One component of a pattern. -/
inductive Piece
  /-- A name without wildcards. -/
  | exact (name : String)
  | wild (tokens : List Token)
  /-- Any number of directories, but at least a name below where it starts. -/
  | anyDepth
deriving DecidableEq, Repr

/-- The name that elements without wildcards spell. -/
def exactName? : List Token → Option (List Char)
  | [] => some []
  | .literal c :: ts => (exactName? ts).map (c :: ·)
  | _ :: _ => none

/-- The component that some elements make up. -/
def pieceOf (tokens : List Token) : Piece :=
  if tokens == [.anyDepth] then .anyDepth
  else match exactName? tokens with
    | some name => .exact (String.ofList name)
    | none => .wild tokens

/-- Whether a component of a pattern stands for a name. -/
def Piece.accepts : Piece → String → Bool
  | .exact s, name => s == name
  | .wild ts, name => Glob.accepts ts name.toList
  | .anyDepth, _ => false

/-- Neighbouring `**` components say no more than one. -/
def mergeDepths : List Piece → List Piece
  | .anyDepth :: .anyDepth :: ps => mergeDepths (.anyDepth :: ps)
  | p :: ps => p :: mergeDepths ps
  | [] => []

/-- A pattern for paths. -/
structure Pattern where
  absolute : Bool
  pieces : List Piece
  /-- A separator at the end asks for directories. -/
  wantsDirectory : Bool
deriving DecidableEq, Repr

/-- The pattern that a text spells, if it spells one. -/
def Pattern.ofText? (text : String) : Option Pattern := do
  let cs := text.toList
  let _ ← parse true cs
  let absolute := cs.head? == some '/'
  let relative := if absolute then cs.drop 1 else cs
  let components := Text.pieces (· == '/') relative
  let components :=
    if components.getLast? == some [] && relative != [] then components.dropLast else components
  let pieces ← components.mapM fun c => (parse true c).map pieceOf
  return ⟨absolute, mergeDepths pieces, cs.getLast? == some '/'⟩

end Clinker.Glob

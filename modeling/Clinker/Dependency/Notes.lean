import Clinker.Text.Space

/-!
# Include notes of the compiler

When asked to show includes, the compiler writes one line `Note: including file: PATH` per header
among its other output. The words may have any case, white space may stand before them and after
each colon, and what follows is the path, without the white space at its end.
-/

namespace Clinker.Dependency

/-- The rest of a text after a beginning, compared without regard to ASCII case. -/
def afterWord? : List Char → List Char → Option (List Char)
  | [], cs => some cs
  | _ :: _, [] => none
  | w :: word, c :: cs => if w == c.toLower then afterWord? word cs else none

/-- What an include note says after its words. -/
def noteRest? (line : List Char) : Option (List Char) := do
  let rest ← afterWord? "note:".toList (Text.trimStartChars line)
  afterWord? "including file:".toList (Text.trimStartChars rest)

/-- The header an include note names. A note that ends in nothing but white space names the last
character of it. -/
def noteHeader? (line : List Char) : Option (List Char) :=
  match noteRest? line with
  | none => none
  | some rest =>
    match Text.trimChars rest with
    | [] => rest.getLast?.map fun c => [c]
    | header => some header

/-- The headers named by the include notes in a text, in order. -/
def notedHeaders (output : String) : List String :=
  ((Text.lines output.toList).filterMap noteHeader?).map String.ofList

end Clinker.Dependency

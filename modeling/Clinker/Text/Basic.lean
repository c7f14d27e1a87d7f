/-!
# Text as characters

Rules about text are stated on lists of characters; a `String` is read through `String.toList`
and built by `String.ofList`. This module holds what every other rule needs: cutting a text at a
separator, its lines, ASCII case, and the order of byte sequences.
-/

namespace Clinker.Text

/-- A rule on characters, applied to a text. -/
def onChars (f : List Char → List Char) (s : String) : String := String.ofList (f s.toList)

@[simp] theorem toList_onChars (f : List Char → List Char) (s : String) :
    (onChars f s).toList = f s.toList := by
  simp [onChars]

/-- A code point that is a character's is the one of the character it gives. -/
theorem toNat_ofNat {n : Nat} (h : n.isValidChar) : (Char.ofNat n).toNat = n := by
  rw [Char.ofNat, dif_pos h]
  rfl

/-! ## Pieces -/

/-- The pieces of a text between the characters that satisfy `p`; always at least one. -/
def pieces (p : Char → Bool) : List Char → List (List Char)
  | [] => [[]]
  | c :: cs =>
    if p c then [] :: pieces p cs
    else match pieces p cs with
      | [] => [[c]]
      | w :: ws => (c :: w) :: ws

/-- The pieces of a text between the occurrences of one character. -/
def piecesAt (sep : Char) (s : String) : List String :=
  (pieces (· == sep) s.toList).map String.ofList

/-- The text before the first `sep` and the text after it. -/
def cutAt (sep : Char) : List Char → Option (List Char × List Char)
  | [] => none
  | c :: cs => if c == sep then some ([], cs) else (cutAt sep cs).map fun (a, b) => (c :: a, b)

/-! ## Lines -/

/-- A line without the carriage return that ends it. -/
def dropFinalReturn : List Char → List Char
  | [] => []
  | ['\r'] => []
  | c :: cs => c :: dropFinalReturn cs

/-- The lines of a text. A line ends at a line feed, and one carriage return before the line feed
is not part of it; the last line may lack its line feed and then keeps a carriage return. -/
def lines (cs : List Char) : List (List Char) :=
  let rec unterminated : List (List Char) → List (List Char)
    | [] => []
    | [l] => if l.isEmpty then [] else [l]
    | l :: ls => dropFinalReturn l :: unterminated ls
  unterminated (pieces (· == '\n') cs)

/-! ## ASCII case -/

/-- The text with its ASCII capitals lowered and everything else as it is. -/
def asciiLower : String → String := onChars (List.map Char.toLower)

/-- Equality of texts up to the case of ASCII letters. -/
def sameIgnoringCase (a b : String) : Bool := asciiLower a == asciiLower b

/-! ## Replacement -/

/-- The text with every occurrence of one character replaced by a sequence. -/
def replaceChar (old : Char) (new : List Char) (cs : List Char) : List Char :=
  cs.flatMap fun c => if c == old then new else [c]

/-- The characters without those at the end that satisfy `p`. -/
def dropEndWhile (p : Char → Bool) (cs : List Char) : List Char :=
  (cs.reverse.dropWhile p).reverse

/-! ## Joining and order -/

/-- The texts one after another with `sep` between neighbours. -/
def join (sep : String) (parts : List String) : String := sep.intercalate parts

/-- The order of texts by code point, which is also the order of their UTF-8 bytes. -/
def le (a b : String) : Bool := decide (a ≤ b)

end Clinker.Text

import Clinker.Text.Basic
import Clinker.Text.CaseTable

/-!
# Upper and lower case

Full casing: a character may become several (`ß` is `SS` in upper case, `İ` is `i` with a dot
above in lower case), and a capital sigma at the end of a word becomes a final sigma. A sigma is
at the end of a word when a cased letter precedes it and none follows, looking through the
characters that case ignores.
-/

namespace Clinker.Text

/-- Membership of a code point in a list of inclusive ranges. -/
def inRanges (ranges : List (Nat × Nat)) (n : Nat) : Bool :=
  ranges.any fun r => r.1 ≤ n && n ≤ r.2

/-- Whether case rules look through `c`. -/
def isCaseIgnorable (c : Char) : Bool := inRanges caseIgnorableRanges c.toNat

/-- Whether `c` is a letter with case that case rules do not look through. -/
def isCased (c : Char) : Bool := inRanges casedRanges c.toNat

/-- The lower case of one character, away from any context. -/
def lowerChar (c : Char) : List Char :=
  if c.toNat == 0x130 then ['i', Char.ofNat 0x307]
  else match lowercaseRuns.find? (·.holds c.toNat) with
    | some r => [Char.ofNat (r.image c.toNat)]
    | none => [c]

/-- The upper case of one character. -/
def upperChar (c : Char) : List Char :=
  match expandingUppercase.find? (·.1 == c.toNat) with
  | some (_, image) => image.map Char.ofNat
  | none =>
    match uppercaseRuns.find? (·.holds c.toNat) with
    | some r => [Char.ofNat (r.image c.toNat)]
    | none => [c]

/-- Whether a cased letter comes first once ignorable characters are skipped. -/
def meetsCased (cs : List Char) : Bool :=
  match cs.dropWhile isCaseIgnorable with
  | [] => false
  | c :: _ => isCased c

/-- The capital sigma, whose lower case depends on its neighbours. -/
def capitalSigma : Char := Char.ofNat 0x3A3

/-- The lower case of a sigma between the characters `before`, nearest first, and `after`. -/
def lowerSigma (before after : List Char) : Char :=
  if meetsCased before && !meetsCased after then Char.ofNat 0x3C2 else Char.ofNat 0x3C3

/-- Lower case of a text whose characters before it are `before`, nearest first. -/
def lowerFrom (before : List Char) : List Char → List Char
  | [] => []
  | c :: cs =>
    let image := if c == capitalSigma then [lowerSigma before cs] else lowerChar c
    image ++ lowerFrom (c :: before) cs

/-- The lower case of a sequence of characters. -/
def lowerChars (cs : List Char) : List Char := lowerFrom [] cs

/-- The lower case of a text. -/
def lower : String → String := onChars lowerChars

/-- The upper case of a text. -/
def upper : String → String := onChars (List.flatMap upperChar)

end Clinker.Text

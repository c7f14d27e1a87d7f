import Clinker.Text.Basic

/-!
# White space

The characters with the Unicode property White_Space, and trimming by them. Blank means: empty
or made of white space only.
-/

namespace Clinker.Text

/-- Whether `c` has the property White_Space. -/
def isSpace (c : Char) : Bool :=
  (0x9 ≤ c.toNat && c.toNat ≤ 0xD) || c.toNat == 0x20 || c.toNat == 0x85 || c.toNat == 0xA0 ||
  c.toNat == 0x1680 || (0x2000 ≤ c.toNat && c.toNat ≤ 0x200A) || c.toNat == 0x2028 ||
  c.toNat == 0x2029 || c.toNat == 0x202F || c.toNat == 0x205F || c.toNat == 0x3000

/-- The characters from the first that is not white space on. -/
def trimStartChars (cs : List Char) : List Char := cs.dropWhile isSpace

/-- The characters up to the last that is not white space. -/
def trimEndChars (cs : List Char) : List Char := dropEndWhile isSpace cs

/-- The characters without white space at either end. -/
def trimChars (cs : List Char) : List Char := trimEndChars (trimStartChars cs)

/-- A text without white space at its end. -/
def trimEnd : String → String := onChars trimEndChars

/-- A text without white space at either end. -/
def trim : String → String := onChars trimChars

/-- Whether a text holds nothing but white space. -/
def isBlank (s : String) : Bool := s.toList.all isSpace

/-- The lines of a text, without the blank ones. -/
def inkedLines (s : String) : List String :=
  ((lines s.toList).filter fun l => !l.all isSpace).map String.ofList

@[simp] theorem trimStartChars_nil : trimStartChars [] = [] := rfl

@[simp] theorem trimChars_nil : trimChars [] = [] := rfl

end Clinker.Text

import Clinker.Json.Basic

/-!
# The grammar of JSON

Which texts spell a value, stated without reading them. A value has many spellings: white space
may stand between any two tokens, and a character in a string may stand for itself or be escaped,
by a letter, by four hexadecimal digits or, beyond the sixteen bits these hold, by a pair of
surrogates. A text spells one value at most, which follows from how texts are read.
-/

namespace Clinker.Json

/-- White space between tokens. -/
def Blanks (cs : List Char) : Prop := ∀ c ∈ cs, c ∈ [' ', '\t', '\n', '\r']

/-! ## Numbers -/

/-- At least one digit. -/
def Digits (cs : List Char) : Prop := cs ≠ [] ∧ ∀ c ∈ cs, c.isDigit = true

/-- Digits that begin with a zero only if they are nothing else. -/
def Whole (cs : List Char) : Prop := Digits cs ∧ (cs.head? = some '0' → cs = ['0'])

/-- What may follow a whole number: a point and digits. -/
inductive Fraction : List Char → Prop
  | absent : Fraction []
  | digits {ds : List Char} : Digits ds → Fraction ('.' :: ds)

/-- What may follow a fraction: a power of ten. -/
inductive Exponent : List Char → Prop
  | absent : Exponent []
  | digits {e : Char} {sign ds : List Char} :
      e ∈ ['e', 'E'] → sign ∈ [[], ['+'], ['-']] → Digits ds → Exponent (e :: (sign ++ ds))

/-- The spelling of a number. -/
inductive Number : List Char → Prop
  | mk {sign whole fraction exponent : List Char} :
      sign ∈ [[], ['-']] → Whole whole → Fraction fraction → Exponent exponent →
      Number (sign ++ whole ++ fraction ++ exponent)

/-! ## Strings -/

/-- `c` is the hexadecimal digit of value `v`, in lower or upper case. -/
def HexDigit (v : Nat) (c : Char) : Prop :=
  "0123456789abcdef".toList[v]? = some c ∨ "0123456789ABCDEF".toList[v]? = some c

/-- The letters that, after a backslash, stand for a character. -/
def letterEscapes : List (Char × Char) :=
  [('"', '"'), ('\\', '\\'), ('/', '/'), ('b', '\x08'), ('f', '\x0c'), ('n', '\n'), ('r', '\r'),
    ('t', '\t')]

/-- The spellings of a code: a character that needs no escape, or an escape. -/
inductive SpellsCode : Nat → List Char → Prop
  | plain {c : Char} : 0x20 ≤ c.toNat → c ≠ '"' → c ≠ '\\' → SpellsCode c.toNat [c]
  | letter {e c : Char} : (e, c) ∈ letterEscapes → SpellsCode c.toNat ['\\', e]
  | hex {i j k l : Nat} {a b c d : Char} :
      HexDigit i a → HexDigit j b → HexDigit k c → HexDigit l d →
      SpellsCode (i * 4096 + j * 256 + k * 16 + l) ['\\', 'u', a, b, c, d]

/-- The spellings of some codes. -/
inductive SpellsCodes : List Nat → List Char → Prop
  | nil : SpellsCodes [] []
  | cons {n : Nat} {ns : List Nat} {t ts : List Char} :
      SpellsCode n t → SpellsCodes ns ts → SpellsCodes (n :: ns) (t ++ ts)

/-- The characters that codes stand for: a character's own code, or two surrogates for a character
beyond sixteen bits. Half a pair stands for no character. -/
inductive Denotes : List Nat → List Char → Prop
  | nil : Denotes [] []
  | one {c : Char} {ns : List Nat} {cs : List Char} :
      Denotes ns cs → Denotes (c.toNat :: ns) (c :: cs)
  | pair {high low : Nat} {c : Char} {ns : List Nat} {cs : List Char} :
      0xD800 ≤ high → high < 0xDC00 → 0xDC00 ≤ low → low < 0xE000 →
      c.toNat = 0x10000 + (high - 0xD800) * 0x400 + (low - 0xDC00) →
      Denotes ns cs → Denotes (high :: low :: ns) (c :: cs)

/-- The spellings of a string. One with half a pair is a string, but no text. -/
inductive SpellsString : Option String → List Char → Prop
  | text {s : String} {codes : List Nat} {t : List Char} :
      SpellsCodes codes t → Denotes codes s.toList → SpellsString (some s) ('"' :: (t ++ ['"']))
  | noText {codes : List Nat} {t : List Char} :
      SpellsCodes codes t → (∀ cs, ¬ Denotes codes cs) → SpellsString none ('"' :: (t ++ ['"']))

/-! ## Values -/

mutual

/-- The spellings of a value, without white space around them. -/
inductive Spells : Json → List Char → Prop
  | null : Spells .null ['n', 'u', 'l', 'l']
  | true : Spells (.bool true) ['t', 'r', 'u', 'e']
  | false : Spells (.bool false) ['f', 'a', 'l', 's', 'e']
  | number {s : String} : Number s.toList → Spells (.number s) s.toList
  | string {s : Option String} {t : List Char} : SpellsString s t → Spells (.string s) t
  | emptyArray {w : List Char} : Blanks w → Spells (.array []) ('[' :: (w ++ [']']))
  | array {items : List Json} {t : List Char} : SpellsItems items t → Spells (.array items) ('[' :: t)
  | emptyObject {w : List Char} : Blanks w → Spells (.object []) ('\x7b' :: (w ++ ['\x7d']))
  | object {members : List (Option String × Json)} {t : List Char} :
      SpellsMembers members t → Spells (.object members) ('\x7b' :: t)

/-- The spellings of a value, with white space around them. -/
inductive SpellsItem : Json → List Char → Prop
  | mk {v : Json} {w t w' : List Char} :
      Blanks w → Spells v t → Blanks w' → SpellsItem v (w ++ (t ++ w'))

/-- The spellings of the items of an array, up to its closing bracket. -/
inductive SpellsItems : List Json → List Char → Prop
  | last {v : Json} {t : List Char} : SpellsItem v t → SpellsItems [v] (t ++ [']'])
  | cons {v : Json} {vs : List Json} {t ts : List Char} :
      SpellsItem v t → SpellsItems vs ts → SpellsItems (v :: vs) (t ++ ',' :: ts)

/-- The spellings of a member of an object, with white space around them. -/
inductive SpellsMember : Option String × Json → List Char → Prop
  | mk {name : Option String} {v : Json} {w n w' t : List Char} :
      Blanks w → SpellsString name n → Blanks w' → SpellsItem v t →
      SpellsMember (name, v) (w ++ (n ++ (w' ++ ':' :: t)))

/-- The spellings of the members of an object, up to its closing brace. -/
inductive SpellsMembers : List (Option String × Json) → List Char → Prop
  | last {m : Option String × Json} {t : List Char} :
      SpellsMember m t → SpellsMembers [m] (t ++ ['\x7d'])
  | cons {m : Option String × Json} {ms : List (Option String × Json)} {t ts : List Char} :
      SpellsMember m t → SpellsMembers ms ts → SpellsMembers (m :: ms) (t ++ ',' :: ts)

end

/-- The JSON texts of a value. -/
def SpelledBy (v : Json) (text : String) : Prop := SpellsItem v text.toList

end Clinker.Json

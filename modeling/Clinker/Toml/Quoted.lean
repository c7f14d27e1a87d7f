import Clinker.Toml.Scalar

/-!
# Strings in TOML

Four kinds of strings: between quotes with escapes, between apostrophes without, and each of them
over several lines between three marks. A line break right after three opening marks is not part
of the string, a backslash at the end of a line joins it to the next text, and one or two marks
may stand right before the closing three. Line breaks are always line feeds in the value.
-/

namespace Clinker.Toml

/-- Whether a character may stand in a string as itself. -/
def isPlain (c : Char) : Bool := c == '\t' || (0x20 ≤ c.toNat && c.toNat != 0x7F)

/-- White space within a line. -/
def isBlank (c : Char) : Bool := c == ' ' || c == '\t'

/-- The rest after white space within a line. -/
def skipBlank (cs : List Char) : List Char := cs.dropWhile isBlank

/-- The rest after a line break. -/
def newline? : List Char → Option (List Char)
  | '\n' :: rest => some rest
  | '\r' :: '\n' :: rest => some rest
  | _ => none

/-- The character with a code point, unless it is half of a surrogate pair or too large. -/
def charOf? (n : Nat) : Option Char :=
  if n < 0xD800 || (0xE000 ≤ n && n < 0x110000) then some (Char.ofNat n) else none

/-- The character that a one-letter escape stands for. -/
def letterEscape? : Char → Option Char
  | 'b' => some '\x08'
  | 't' => some '\t'
  | 'n' => some '\n'
  | 'f' => some '\x0c'
  | 'r' => some '\r'
  | '"' => some '"'
  | '\\' => some '\\'
  | _ => none

/-- How many digits follow the letter of a numeric escape. -/
def escapeWidth? : Char → Option Nat
  | 'u' => some 4
  | 'U' => some 8
  | _ => none

/-- What an escape stands for, read after its backslash, and how many characters it takes. -/
def escape? : List Char → Option (Char × Nat)
  | [] => none
  | e :: rest =>
    match escapeWidth? e with
    | some width =>
      let ds := rest.take width
      if ds.length == width && ds.all (isDigitOf 16) then
        (charOf? (valueOf 16 ds)).map fun c => (c, width + 1)
      else none
    | none => (letterEscape? e).map fun c => (c, 1)

/-- What a reader of strings does next, which it does once `skip` more characters are over. -/
structure StringMode where
  /-- The mark that closes the string. -/
  mark : Char
  /-- Whether backslashes escape. -/
  escapes : Bool
  /-- Whether the string may go over several lines. -/
  multiline : Bool

/-- How many of the first characters are `c`. -/
def runLength (c : Char) (cs : List Char) : Nat := (cs.takeWhile (· == c)).length

/-- How many characters of white space and line breaks follow a backslash at the end of a line. -/
def lineJoin? (cs : List Char) : Option Nat :=
  match newline? (skipBlank cs) with
  | none => none
  | some _ =>
    let rec blanks : List Char → Nat
      | '\r' :: '\n' :: rest => blanks rest + 2
      | c :: rest => if isBlank c || c == '\n' then blanks rest + 1 else 0
      | [] => 0
    some (blanks cs)

/-- The text of a string up to its closing mark, and what follows it. `skip` characters at the
front have been dealt with. -/
def body? (mode : StringMode) (skip : Nat) : List Char → Option (List Char × List Char)
  | [] => none
  | c :: rest =>
    match skip with
    | skip + 1 => body? mode skip rest
    | 0 =>
      if c == mode.mark then
        if !mode.multiline then some ([], rest)
        else
          let run := runLength mode.mark (c :: rest)
          if run < 3 then (body? mode 0 rest).map fun (cs, after) => (c :: cs, after)
          else
            let extra := min (run - 3) 2
            some (List.replicate extra c, rest.drop (extra + 2))
      else if c == '\\' && mode.escapes then
        match escape? rest with
        | some (x, width) => (body? mode width rest).map fun (cs, after) => (x :: cs, after)
        | none =>
          if mode.multiline then (lineJoin? rest).bind fun width => body? mode width rest
          else none
      else if isPlain c then (body? mode 0 rest).map fun (cs, after) => (c :: cs, after)
      else if mode.multiline then
        match newline? (c :: rest) with
        | some _ =>
          (body? mode (if c == '\r' then 1 else 0) rest).map fun (cs, after) => ('\n' :: cs, after)
        | none => none
      else none

/-- The rest after a line break, if one stands at the front. -/
def dropNewline (cs : List Char) : List Char := (newline? cs).getD cs

/-- A string of one of the kinds that `mark` opens. -/
def quoted? (mark : Char) (escapes multiline : Bool) (cs : List Char) :
    Option (String × List Char) :=
  (body? ⟨mark, escapes, multiline⟩ 0 cs).map fun (text, rest) => (String.ofList text, rest)

/-- A string of one line. -/
def lineString? : List Char → Option (String × List Char)
  | '"' :: rest => quoted? '"' true false rest
  | '\x27' :: rest => quoted? '\x27' false false rest
  | _ => none

/-- A string. -/
def string? : List Char → Option (String × List Char)
  | '"' :: '"' :: '"' :: rest => quoted? '"' true true (dropNewline rest)
  | '\x27' :: '\x27' :: '\x27' :: rest => quoted? '\x27' false true (dropNewline rest)
  | cs => lineString? cs

end Clinker.Toml

import Clinker.Json.Basic

/-!
# Reading JSON

A strict reader: one value between white space, no byte order mark, no comments, no trailing
commas. Nesting and the size of numbers are not limited. The leaves (white space, numbers,
strings) come first; `value` puts them together, with a bound on the nesting that the length of
the text always meets.
-/

namespace Clinker.Json

/-- White space between tokens. -/
def isBlank (c : Char) : Bool := c == ' ' || c == '\t' || c == '\n' || c == '\r'

/-- The rest of a text after its leading white space. -/
def skipBlank (cs : List Char) : List Char := cs.dropWhile isBlank

/-- The rest of a text after a given beginning. -/
def expect? : List Char → List Char → Option (List Char)
  | [], cs => some cs
  | _ :: _, [] => none
  | e :: es, c :: cs => if e == c then expect? es cs else none

/-! ## Numbers -/

/-- At least one digit, and what follows the digits. -/
def digits? (cs : List Char) : Option (List Char × List Char) :=
  let ds := cs.takeWhile Char.isDigit
  if ds.isEmpty then none else some (ds, cs.dropWhile Char.isDigit)

/-- Digits that begin with a zero only if they are nothing else. -/
def whole? (cs : List Char) : Option (List Char × List Char) := do
  let (ds, rest) ← digits? cs
  if ds.head? == some '0' && ds.length != 1 then none else some (ds, rest)

/-- The part after a decimal point, if there is one. -/
def fraction? : List Char → Option (List Char × List Char)
  | '.' :: cs => (digits? cs).map fun (ds, rest) => ('.' :: ds, rest)
  | cs => some ([], cs)

/-- The exponent, if there is one. -/
def exponent? : List Char → Option (List Char × List Char)
  | e :: cs =>
    if e == 'e' || e == 'E' then
      match cs with
      | s :: more =>
        if s == '+' || s == '-' then (digits? more).map fun (ds, rest) => (e :: s :: ds, rest)
        else (digits? cs).map fun (ds, rest) => (e :: ds, rest)
      | [] => none
    else some ([], e :: cs)
  | [] => some ([], [])

/-- A number and what follows it. -/
def number? (cs : List Char) : Option (String × List Char) := do
  let (sign, cs) := match cs with
    | '-' :: rest => (['-'], rest)
    | _ => ([], cs)
  let (whole, cs) ← whole? cs
  let (fraction, cs) ← fraction? cs
  let (exponent, cs) ← exponent? cs
  return (String.ofList (sign ++ whole ++ fraction ++ exponent), cs)

/-! ## Strings -/

/-- The value of a hexadecimal digit. -/
def hexValue? (c : Char) : Option Nat :=
  if c.isDigit then some (c.toNat - '0'.toNat)
  else if 'a' ≤ c && c ≤ 'f' then some (c.toNat - 'a'.toNat + 10)
  else if 'A' ≤ c && c ≤ 'F' then some (c.toNat - 'A'.toNat + 10)
  else none

/-- The value of four hexadecimal digits. -/
def hex4? (a b c d : Char) : Option Nat := do
  return ((← hexValue? a) * 4096 + (← hexValue? b) * 256 + (← hexValue? c) * 16 + (← hexValue? d))

/-- The character that a one-letter escape stands for. -/
def escape? : Char → Option Char
  | '"' => some '"'
  | '\\' => some '\\'
  | '/' => some '/'
  | 'b' => some '\x08'
  | 'f' => some '\x0c'
  | 'n' => some '\n'
  | 'r' => some '\r'
  | 't' => some '\t'
  | _ => none

/-- The codes in a string, read after its opening quote up to its closing one. -/
def codes? : List Char → Option (List Nat × List Char)
  | [] => none
  | '\\' :: 'u' :: a :: b :: c :: d :: rest => do
    let code ← hex4? a b c d
    let (codes, after) ← codes? rest
    return (code :: codes, after)
  | '\\' :: e :: rest => do
    let c ← escape? e
    let (codes, after) ← codes? rest
    return (c.toNat :: codes, after)
  | c :: rest =>
    if c == '"' then some ([], rest)
    else if c == '\\' || c.toNat < 0x20 then none
    else (codes? rest).map fun (codes, after) => (c.toNat :: codes, after)

/-- Whether a code is half of a surrogate pair. -/
def isSurrogate (n : Nat) : Bool := 0xD800 ≤ n && n < 0xE000

/-- The characters that codes stand for, pairs of surrogates being one character. -/
def charsOf? : List Nat → Option (List Char)
  | [] => some []
  | a :: rest =>
    if isSurrogate a then
      match rest with
      | b :: more =>
        if a < 0xDC00 && 0xDC00 ≤ b && b < 0xE000 then
          (charsOf? more).map (Char.ofNat (0x10000 + (a - 0xD800) * 0x400 + (b - 0xDC00)) :: ·)
        else none
      | [] => none
    else (charsOf? rest).map (Char.ofNat a :: ·)

/-- A string, read after its opening quote. -/
def string? (cs : List Char) : Option (Option String × List Char) := do
  let (codes, rest) ← codes? cs
  return ((charsOf? codes).map String.ofList, rest)

/-! ## Values -/

mutual

/-- A value at the front of a text, nested no deeper than `depth`. -/
def value? (depth : Nat) (cs : List Char) : Option (Json × List Char) :=
  match depth with
  | 0 => none
  | depth + 1 =>
    match cs with
    | '"' :: rest => (string? rest).map fun (s, after) => (.string s, after)
    | '[' :: rest =>
      match skipBlank rest with
      | ']' :: after => some (.array [], after)
      | rest => (items? depth rest).map fun (items, after) => (.array items, after)
    | '\x7b' :: rest =>
      match skipBlank rest with
      | '\x7d' :: after => some (.object [], after)
      | rest => (members? depth rest).map fun (members, after) => (.object members, after)
    | 't' :: rest => (expect? ['r', 'u', 'e'] rest).map fun after => (.bool true, after)
    | 'f' :: rest => (expect? ['a', 'l', 's', 'e'] rest).map fun after => (.bool false, after)
    | 'n' :: rest => (expect? ['u', 'l', 'l'] rest).map fun after => (.null, after)
    | cs => (number? cs).map fun (spelling, after) => (.number spelling, after)

/-- The items of an array up to its closing bracket. -/
def items? (depth : Nat) (cs : List Char) : Option (List Json × List Char) :=
  match depth with
  | 0 => none
  | depth + 1 => do
    let (item, rest) ← value? depth (skipBlank cs)
    match skipBlank rest with
    | ',' :: rest =>
      let (items, after) ← items? depth rest
      return (item :: items, after)
    | ']' :: after => return ([item], after)
    | _ => none

/-- The members of an object up to its closing brace. -/
def members? (depth : Nat) (cs : List Char) : Option (List (Option String × Json) × List Char) :=
  match depth with
  | 0 => none
  | depth + 1 =>
    match skipBlank cs with
    | '"' :: rest => do
      let (name, rest) ← string? rest
      match skipBlank rest with
      | ':' :: rest =>
        let (item, rest) ← value? depth (skipBlank rest)
        match skipBlank rest with
        | ',' :: rest =>
          let (members, after) ← members? depth rest
          return ((name, item) :: members, after)
        | '\x7d' :: after => return ([(name, item)], after)
        | _ => none
      | _ => none
    | _ => none

end

/-- The value a text spells, if it spells one. Every level of nesting and every item takes a
character, so the length of the text bounds the depth of the reading. -/
def ofText? (text : String) : Option Json := do
  let cs := text.toList
  let (value, rest) ← value? (cs.length + 1) (skipBlank cs)
  if skipBlank rest == [] then some value else none

end Clinker.Json

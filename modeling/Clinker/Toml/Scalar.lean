import Clinker.Text.Basic

/-!
# Numbers, dates and times in TOML

Readers for the values that are written with digits. Each takes the rest of a document and gives
back what follows the value, or nothing if there is no such value; what may follow a value is for
the caller to check.
-/

namespace Clinker.Toml

/-- The rest after a given character. -/
def char? (c : Char) : List Char → Option (List Char)
  | [] => none
  | x :: rest => if x == c then some rest else none

/-- The rest after a given word. -/
def word? : List Char → List Char → Option (List Char)
  | [], cs => some cs
  | w :: word, cs => (char? w cs).bind (word? word)

/-- A sign, if there is one; `true` stands for minus. -/
def sign : List Char → Bool × List Char
  | '-' :: rest => (true, rest)
  | '+' :: rest => (false, rest)
  | cs => (false, cs)

/-! ## Digits -/

/-- Whether `c` is a digit in a base up to sixteen. -/
def isDigitOf (base : Nat) (c : Char) : Bool :=
  if c.isDigit then c.toNat - '0'.toNat < base
  else base == 16 && (('a' ≤ c && c ≤ 'f') || ('A' ≤ c && c ≤ 'F'))

/-- The value of a digit. -/
def digitValue (c : Char) : Nat :=
  if c.isDigit then c.toNat - '0'.toNat
  else if c.toNat < 'a'.toNat then c.toNat - 'A'.toNat + 10
  else c.toNat - 'a'.toNat + 10

/-- The digits at the front, when one has been read already. Underscores may stand between digits;
one that no digit follows makes the number malformed. -/
def moreDigits (base : Nat) : List Char → Option (List Char × List Char)
  | [] => some ([], [])
  | '_' :: c :: rest =>
    if isDigitOf base c then (moreDigits base rest).map fun (ds, after) => (c :: ds, after)
    else none
  | '_' :: [] => none
  | c :: rest =>
    if isDigitOf base c then (moreDigits base rest).map fun (ds, after) => (c :: ds, after)
    else some ([], c :: rest)

/-- At least one digit. -/
def digits? (base : Nat) : List Char → Option (List Char × List Char)
  | [] => none
  | c :: rest =>
    if isDigitOf base c then (moreDigits base rest).map fun (ds, after) => (c :: ds, after)
    else none

/-- The digits of a decimal number, which begin with a zero only if they are nothing else. -/
def wholeDigits? : List Char → Option (List Char × List Char)
  | '0' :: rest => some (['0'], rest)
  | cs => digits? 10 cs

/-- The number that digits denote. -/
def valueOf (base : Nat) (digits : List Char) : Nat :=
  digits.foldl (fun n c => n * base + digitValue c) 0

/-! ## Integers -/

/-- Whether an integer has 64 bits. -/
def fits (n : Int) : Bool := Int64.minValue.toInt ≤ n && n ≤ Int64.maxValue.toInt

/-- An integer in some base, after the letter that names the base. -/
def based? (base : Nat) (cs : List Char) : Option (Int × List Char) := do
  let (ds, rest) ← digits? base cs
  let n : Int := valueOf base ds
  if fits n then some (n, rest) else none

/-- An integer. -/
def integer? (cs : List Char) : Option (Int × List Char) :=
  match cs with
  | '0' :: 'x' :: rest => based? 16 rest
  | '0' :: 'o' :: rest => based? 8 rest
  | '0' :: 'b' :: rest => based? 2 rest
  | _ => do
    let (negative, cs) := sign cs
    let (ds, rest) ← wholeDigits? cs
    let n : Int := valueOf 10 ds
    let n := if negative then -n else n
    if fits n then some (n, rest) else none

/-! ## Floating point numbers -/

/-- Whether `m · 10 ^ e` is too large for a double: not less than the midpoint between the largest
double and the power of two after it. -/
def overflows (m : Nat) (e : Int) : Bool :=
  let limit := (Nat.pow 2 54 - 1) * Nat.pow 2 970
  let places : Int := (Nat.toDigits 10 m).length + e
  if m == 0 || places < 300 then false
  else if 400 < places then true
  else if 0 ≤ e then limit ≤ m * Nat.pow 10 e.toNat
  else limit * Nat.pow 10 (-e).toNat ≤ m

/-- The digits after a decimal point, if there is one. -/
def fraction? : List Char → Option (Option (List Char) × List Char)
  | '.' :: rest => (digits? 10 rest).map fun (ds, after) => (some ds, after)
  | cs => some (none, cs)

/-- The exponent, if there is one. -/
def exponent? : List Char → Option (Option Int × List Char)
  | c :: rest =>
    if c == 'e' || c == 'E' then do
      let (negative, cs) := sign rest
      let (ds, after) ← digits? 10 cs
      let n : Int := valueOf 10 ds
      return (some (if negative then -n else n), after)
    else some (none, c :: rest)
  | [] => some (none, [])

/-- A number with a fraction or an exponent. One that is positive must not be too large. -/
def decimal? (cs : List Char) : Option (List Char) := do
  let (negative, cs) := sign cs
  let (whole, cs) ← wholeDigits? cs
  let (fraction, cs) ← fraction? cs
  let (exponent, cs) ← exponent? cs
  if fraction.isNone && exponent.isNone then none
  else
    let after := fraction.getD []
    let m := valueOf 10 (whole ++ after)
    if !negative && overflows m (exponent.getD 0 - after.length) then none else some cs

/-- Infinity or no number, with or without a sign. -/
def special? (cs : List Char) : Option (List Char) :=
  let rest := (sign cs).2
  word? "inf".toList rest <|> word? "nan".toList rest

/-- A floating point number. -/
def float? (cs : List Char) : Option (List Char) := decimal? cs <|> special? cs

/-! ## Dates and times -/

/-- Exactly `count` digits whose value lies between two bounds. -/
def boundedDigits? (count low high : Nat) (cs : List Char) : Option (Nat × List Char) :=
  let ds := cs.take count
  let n := valueOf 10 ds
  if ds.length == count && ds.all Char.isDigit && low ≤ n && n ≤ high then some (n, cs.drop count)
  else none

/-- How many days a month has. -/
def daysIn (year month : Nat) : Nat :=
  if month == 2 then
    if year % 4 == 0 && (year % 100 != 0 || year % 400 == 0) then 29 else 28
  else if month == 4 || month == 6 || month == 9 || month == 11 then 30
  else 31

/-- A date. -/
def date? (cs : List Char) : Option (List Char) := do
  let (year, cs) ← boundedDigits? 4 0 9999 cs
  let cs ← char? '-' cs
  let (month, cs) ← boundedDigits? 2 1 12 cs
  let cs ← char? '-' cs
  let (_, cs) ← boundedDigits? 2 1 (daysIn year month) cs
  return cs

/-- A fraction of a second, if there is one. -/
def secondFraction? : List Char → Option (List Char)
  | '.' :: c :: rest => if c.isDigit then some (rest.dropWhile Char.isDigit) else none
  | '.' :: [] => none
  | cs => some cs

/-- A time of day. A minute may have a leap second. -/
def time? (cs : List Char) : Option (List Char) := do
  let (_, cs) ← boundedDigits? 2 0 23 cs
  let cs ← char? ':' cs
  let (_, cs) ← boundedDigits? 2 0 59 cs
  let cs ← char? ':' cs
  let (_, cs) ← boundedDigits? 2 0 60 cs
  return (secondFraction? cs).getD cs

/-- The distance from universal time, if it is given. -/
def offset? : List Char → Option (List Char)
  | [] => some []
  | c :: rest =>
    if c == 'Z' || c == 'z' then some rest
    else if c == '+' || c == '-' then do
      let (_, cs) ← boundedDigits? 2 0 23 rest
      let cs ← char? ':' cs
      let (_, cs) ← boundedDigits? 2 0 59 cs
      return cs
    else some (c :: rest)

/-- The time and the offset after a date, if they are given. -/
def timeOfDate? : List Char → Option (List Char)
  | c :: rest =>
    if c == 'T' || c == 't' || c == ' ' then
      match time? rest with
      | some after => offset? after
      | none => some (c :: rest)
    else some (c :: rest)
  | [] => some []

/-- A date, a time, or both. -/
def datetime? (cs : List Char) : Option (List Char) :=
  match date? cs with
  | some rest => timeOfDate? rest
  | none => time? cs

end Clinker.Toml

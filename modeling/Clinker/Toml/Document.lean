import Clinker.Toml.Quoted
import Clinker.Toml.Table

/-!
# TOML documents

A document is a sequence of lines, each a key with its value, a header or nothing but a comment.
The reader takes a line at a time and adds what it says to the tables built so far. Arrays and
inline tables may be nested to a depth of 79, and a dotted key may have as many parts.
-/

namespace Clinker.Toml

/-- One more than the deepest nesting. -/
def nestingLimit : Nat := 80

/-! ## Blanks and keys -/

/-- The rest of a line after a comment, if there is one. -/
def afterComment : List Char → List Char
  | '#' :: rest => rest.dropWhile isPlain
  | cs => cs

/-- The rest after the end of a line: white space, perhaps a comment, and a line break unless the
document is over. -/
def lineEnd? (cs : List Char) : Option (List Char) :=
  match afterComment (skipBlank cs) with
  | [] => some []
  | rest => newline? rest

/-- The rest after white space, comments and line breaks. `inComment` says that a comment has
begun. -/
def skipLines (inComment : Bool) : List Char → List Char
  | [] => []
  | '\r' :: '\n' :: rest => skipLines false rest
  | c :: rest =>
    if c == '\n' then skipLines false rest
    else if inComment then if isPlain c then skipLines true rest else c :: rest
    else if isBlank c then skipLines false rest
    else if c == '#' then skipLines true rest
    else c :: rest

/-- Whether a character may stand in a key without quotes. -/
def isBare (c : Char) : Bool := c.isAlphanum || c == '-' || c == '_'

/-- One part of a key. -/
def keyPart? (cs : List Char) : Option (String × List Char) :=
  match cs with
  | '"' :: _ | '\x27' :: _ => lineString? cs
  | _ =>
    let name := cs.takeWhile isBare
    if name.isEmpty then none else some (String.ofList name, cs.dropWhile isBare)

/-- A key of at most `parts` parts, with white space around each. -/
def keyParts? (parts : Nat) (cs : List Char) : Option (List String × List Char) :=
  match parts with
  | 0 => none
  | parts + 1 => do
    let (name, rest) ← keyPart? (skipBlank cs)
    match skipBlank rest with
    | '.' :: rest =>
      let (names, rest) ← keyParts? parts rest
      return (name :: names, rest)
    | rest => return ([name], rest)

/-- A key: the parts before the last one, and the last one. -/
def key? (cs : List Char) : Option ((List String × String) × List Char) := do
  let (names, rest) ← keyParts? (nestingLimit - 1) cs
  let last ← names.getLast?
  return ((names.dropLast, last), rest)

/-- A key and the equals sign after it. -/
def keyOfPair? (cs : List Char) : Option ((List String × String) × List Char) := do
  let (key, rest) ← key? cs
  return (key, ← char? '=' rest)

/-! ## Values -/

/-- A value without parts. -/
def scalar? (cs : List Char) : Option (Toml × List Char) :=
  match cs with
  | '"' :: _ | '\x27' :: _ => (string? cs).map fun (s, rest) => (.string s, rest)
  | 't' :: _ => (word? "true".toList cs).map fun rest => (.boolean true, rest)
  | 'f' :: _ => (word? "false".toList cs).map fun rest => (.boolean false, rest)
  | _ =>
    ((datetime? cs).map fun rest => (.datetime, rest)) <|>
      ((float? cs).map fun rest => (.float, rest)) <|>
      ((integer? cs).map fun (n, rest) => (.integer n, rest))

mutual

/-- A value nested less deep than `depth`; `steps` bounds the work. -/
def value? (steps depth : Nat) (cs : List Char) : Option (Toml × List Char) :=
  match steps with
  | 0 => none
  | steps + 1 =>
    match cs with
    | '[' :: rest =>
      if depth ≤ 1 then none
      else (arrayItems? steps (depth - 1) rest).map fun (items, after) => (.array items, after)
    | '\x7b' :: rest =>
      if depth ≤ 1 then none
      else match skipBlank rest with
        | '\x7d' :: after => some (.table [], after)
        | rest =>
          (pairs? steps (depth - 1) (.empty .header) rest).map fun (d, after) => (d.finish, after)
    | cs => scalar? cs

/-- The items of an array up to its closing bracket. A comma may follow the last one. -/
def arrayItems? (steps depth : Nat) (cs : List Char) : Option (List Toml × List Char) :=
  match steps with
  | 0 => none
  | steps + 1 =>
    match skipLines false cs with
    | ']' :: after => some ([], after)
    | cs => do
      let (item, rest) ← value? steps depth cs
      match skipLines false rest with
      | ',' :: rest =>
        let (items, after) ← arrayItems? steps depth rest
        return (item :: items, after)
      | ']' :: after => return ([item], after)
      | _ => none

/-- The pairs of an inline table up to its closing brace. -/
def pairs? (steps depth : Nat) (d : Draft) (cs : List Char) : Option (Draft × List Char) :=
  match steps with
  | 0 => none
  | steps + 1 => do
    let ((path, key), rest) ← keyOfPair? cs
    let (v, rest) ← value? steps depth (skipBlank rest)
    let d ← d.insertDotted path key v
    match skipBlank rest with
    | ',' :: rest => pairs? steps depth d rest
    | '\x7d' :: after => return (d, after)
    | _ => none

end

/-! ## Lines -/

/-- What has been read of a document. -/
structure Progress where
  root : Draft
  /-- The table that the last header opened. -/
  current : List String

/-- The table that keys go to, with one more value. -/
def Progress.add (p : Progress) (path : List String) (key : String) (v : Toml) :
    Option Progress := do
  let root ← Draft.change .parent (Draft.insertDotted path key v) p.current p.root
  return { p with root := root }

/-- Read one line. -/
def line? (p : Progress) (cs : List Char) : Option (Progress × List Char) :=
  match cs with
  | '[' :: '[' :: rest => do
    let ((path, key), rest) ← key? rest
    let rest ← word? [']', ']'] rest
    let root ← p.root.openItem path key
    return (⟨root, path ++ [key]⟩, ← lineEnd? rest)
  | '[' :: rest => do
    let ((path, key), rest) ← key? rest
    let rest ← char? ']' rest
    let root ← p.root.openTable path key
    return (⟨root, path ++ [key]⟩, ← lineEnd? rest)
  | _ =>
    match lineEnd? cs with
    | some rest => some (p, rest)
    | none => do
      let ((path, key), rest) ← keyOfPair? cs
      let (v, rest) ← value? (cs.length + 1) nestingLimit (skipBlank rest)
      let p ← p.add path key v
      return (p, ← lineEnd? rest)

/-- Read up to `count` lines to the end of the document. -/
def lines? (count : Nat) (p : Progress) (cs : List Char) : Option Progress :=
  match count, skipBlank cs with
  | _, [] => some p
  | 0, _ => none
  | count + 1, cs => do
    let (p, rest) ← line? p cs
    lines? count p rest

/-- The table that a document spells, if it is one. A byte order mark may stand in front. Every
line takes a character, so there are no more lines than characters. -/
def ofText? (text : String) : Option Toml := do
  let cs := match text.toList with
    | c :: rest => if c.toNat == 0xFEFF then rest else c :: rest
    | [] => []
  let p ← lines? (cs.length + 1) ⟨.empty .header, []⟩ cs
  return p.root.finish

end Clinker.Toml

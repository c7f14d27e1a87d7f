import Clinker.Json.Basic

/-!
# Writing JSON

Values over several lines: two spaces of indentation per level, one item or member per line, and
empty arrays and objects as two brackets. In strings only quotes, backslashes and control
characters are escaped.
-/

namespace Clinker.Json

/-- A hexadecimal digit. -/
def hexDigit (n : Nat) : Char := (Nat.digitChar n)

/-- The written form of a character in a string. -/
def escaped (c : Char) : List Char :=
  if c == '"' then ['\\', '"']
  else if c == '\\' then ['\\', '\\']
  else if c == '\n' then ['\\', 'n']
  else if c == '\r' then ['\\', 'r']
  else if c == '\t' then ['\\', 't']
  else if c == '\x08' then ['\\', 'b']
  else if c == '\x0c' then ['\\', 'f']
  else if c.toNat < 0x20 then
    ['\\', 'u', '0', '0', hexDigit (c.toNat / 16), hexDigit (c.toNat % 16)]
  else [c]

/-- The written form of a string. A string that is no text is written as an empty one. -/
def writtenString (s : Option String) : List Char :=
  '"' :: ((s.getD "").toList.flatMap escaped ++ ['"'])

/-- A new line, indented to a level. -/
def newLine (level : Nat) : List Char := '\n' :: List.replicate (2 * level) ' '

mutual

/-- The written form of a value that starts at an indentation level. -/
def written (level : Nat) : Json → List Char
  | .null => ['n', 'u', 'l', 'l']
  | .bool true => ['t', 'r', 'u', 'e']
  | .bool false => ['f', 'a', 'l', 's', 'e']
  | .number spelling => spelling.toList
  | .string s => writtenString s
  | .array [] => ['[', ']']
  | .array (item :: items) =>
    '[' :: (newLine (level + 1) ++ written (level + 1) item ++ writtenItems level items)
  | .object [] => ['\x7b', '\x7d']
  | .object (m :: members) =>
    '\x7b' :: (newLine (level + 1) ++ writtenString m.1 ++ ':' :: ' ' :: written (level + 1) m.2 ++
      writtenMembers level members)

/-- The items after the first, and the closing bracket. -/
def writtenItems (level : Nat) : List Json → List Char
  | [] => newLine level ++ [']']
  | item :: items =>
    ',' :: (newLine (level + 1) ++ written (level + 1) item ++ writtenItems level items)

/-- The members after the first, and the closing brace. -/
def writtenMembers (level : Nat) : List (Option String × Json) → List Char
  | [] => newLine level ++ ['\x7d']
  | (name, value) :: members =>
    ',' :: (newLine (level + 1) ++ writtenString name ++ ':' :: ' ' :: written (level + 1) value ++
      writtenMembers level members)

end

/-- A value as text. -/
def render (j : Json) : String := String.ofList (written 0 j)

end Clinker.Json

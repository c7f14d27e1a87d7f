import Clinker.Text.Basic
import Clinker.Text.MarkTable

/-!
# Texts between quotes

A text as descriptions show it: between double quotes, on one line. Quotes, backslashes and the
usual control characters have escapes of their own, and what cannot be shown is spelled out by
its code point.
-/

namespace Clinker.Text

/-- Whether a character is spelled out by its code point. -/
def isSpelledOut (c : Char) : Bool :=
  spelledOutRanges.any fun r => r.1 ≤ c.toNat && c.toNat ≤ r.2

/-- A character in a quoted text. -/
def quotedChar (c : Char) : List Char :=
  match c with
  | '\x00' => ['\\', '0']
  | '\t' => ['\\', 't']
  | '\n' => ['\\', 'n']
  | '\r' => ['\\', 'r']
  | '"' | '\x27' | '\\' => ['\\', c]
  | _ =>
    if isSpelledOut c then ['\\', 'u', '\x7b'] ++ Nat.toDigits 16 c.toNat ++ ['\x7d'] else [c]

/-- A text between quotes. -/
def quoted (s : String) : String :=
  onChars (fun cs => '"' :: cs.flatMap quotedChar ++ ['"']) s

end Clinker.Text

import Clinker.Text.Basic

/-!
# Cutting a command line into arguments

The rules of the Visual C++ runtime. Arguments are separated by white space outside quotes. A
quote opens or closes quoting, except that a doubled quote inside quotes is a quote of the
argument. A run of backslashes is plain text unless a quote follows; then each pair is one
backslash, and an odd one left over makes the quote part of the argument.

The scan reads the line once, a character at a time. Its state is finite but for the number of
backslashes that stand before the next character, so the rules are one table, `Scan.read`.
-/

namespace Clinker.CommandLine

/-- White space that separates arguments. -/
def isSeparator (c : Char) : Bool := c == ' ' || c == '\t' || c == '\r' || c == '\n'

/-- Where a scan of a line stands. -/
inductive Scan
  /-- No argument is open. -/
  | between
  /-- An argument is open, and a run of `run` backslashes of it is not yet written. -/
  | inside (quoted : Bool) (run : Nat)
  /-- A quote inside quotes was read, which closes them unless another quote follows. -/
  | closing
deriving DecidableEq, Repr

/-- What one character does to a scan. -/
inductive Step
  /-- The character separates, and no argument was open. -/
  | skip
  /-- The open argument ends with `written`. -/
  | finish (written : List Char)
  /-- The open argument goes on after `written`. -/
  | keep (written : List Char) (next : Scan)

/-- A character of an open argument. -/
def readInside (quoted : Bool) (run : Nat) (c : Char) : Step :=
  if c == '\\' then .keep [] (.inside quoted (run + 1))
  else if c == '"' then
    if run % 2 == 1 then .keep (List.replicate (run / 2) '\\' ++ ['"']) (.inside quoted 0)
    else .keep (List.replicate (run / 2) '\\') (if quoted then .closing else .inside true 0)
  else if isSeparator c && !quoted then .finish (List.replicate run '\\')
  else .keep (List.replicate run '\\' ++ [c]) (.inside quoted 0)

namespace Scan

/-- The rules, one character at a time. -/
def read (s : Scan) (c : Char) : Step :=
  match s with
  | .between => if isSeparator c then .skip else readInside false 0 c
  | .closing => if c == '"' then .keep ['"'] (.inside true 0) else readInside false 0 c
  | .inside quoted run => readInside quoted run c

/-- The end of the argument that is open at the end of the line, if one is. -/
def rest : Scan → List (List Char)
  | .between => []
  | .closing => [[]]
  | .inside _ run => [List.replicate run '\\']

end Scan

/-- Characters in front of the first of the arguments that follow. -/
def extend (front : List Char) : List (List Char) → List (List Char)
  | [] => [front]
  | arg :: args => (front ++ arg) :: args

/-- The arguments in the rest of a line, the first of them being the rest of an open one. -/
def scan (s : Scan) : List Char → List (List Char)
  | [] => s.rest
  | c :: cs =>
    match s.read c with
    | .skip => scan .between cs
    | .finish written => written :: scan .between cs
    | .keep written next => extend written (scan next cs)

/-- The arguments of a command line. -/
def splitChars (line : List Char) : List (List Char) := scan .between line

/-- The arguments of a command line. -/
def split (line : String) : List String := (splitChars line.toList).map String.ofList

@[simp] theorem scan_nil (s : Scan) : scan s [] = s.rest := rfl

@[simp] theorem extend_cons (front arg : List Char) (args : List (List Char)) :
    extend front (arg :: args) = (front ++ arg) :: args := rfl

theorem extend_append (a b : List Char) (args : List (List Char)) :
    extend (a ++ b) args = extend a (extend b args) := by
  cases args <;> simp [extend]

/-- Separators in front of a line belong to no argument. -/
theorem splitChars_cons_separator {c : Char} (h : isSeparator c = true) (line : List Char) :
    splitChars (c :: line) = splitChars line := by
  simp [splitChars, scan, Scan.read, h]

end Clinker.CommandLine

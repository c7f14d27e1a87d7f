import Clinker.Path

/-!
# Diagnostics

What a user reads when something failed: the message, the place it concerns, the lines that
explain it and what can be done about it.
-/

namespace Clinker

/-- A failure as it is shown. -/
structure Diagnostic where
  message : String
  context : List String
  suggestions : List String
  location : Option Path
deriving DecidableEq, Repr

namespace Diagnostic

/-- A word in a terminal colour. -/
def painted (color : String) (word : String) : String := s!"\x1b[1;{color}m{word}\x1b[0m"

/-- Suggestions, numbered from `n`. -/
def numbered (n : Nat) : List String → String
  | [] => ""
  | s :: rest => s!"  {n}. {s}\n" ++ numbered (n + 1) rest

/-- The text of a diagnostic, with or without colour. -/
def render (d : Diagnostic) (colored : Bool) : String :=
  let severity := if colored then painted "31" "error" else "error"
  let help := if colored then painted "32" "help" else "help"
  let place := match d.location with
    | some p => s!"  --> {p.text}\n"
    | none => ""
  let context := String.join (d.context.map fun line => s!"  | {line}\n")
  let advice :=
    if d.suggestions.isEmpty then "" else s!"\n{help}: consider:\n" ++ numbered 1 d.suggestions
  s!"{severity}: {d.message}\n" ++ place ++ context ++ advice

end Diagnostic

end Clinker

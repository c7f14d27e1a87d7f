import Clinker.Text.Basic

/-!
# Quoting arguments for one command line

A Windows program receives a single line of text and cuts it into arguments itself. The cutting
rules give a backslash a special meaning only in a run that precedes a quote, so quoting doubles
a run exactly there: before a quote of the argument, and before the quote that closes it. An
argument that is not empty and holds neither a space nor a quote is written as it is.
-/

namespace Clinker.CommandLine

/-- A run of backslashes. -/
abbrev backslashes (n : Nat) : List Char := List.replicate n '\\'

/-- Whether an argument is written without quotes. -/
def isPlain (arg : List Char) : Bool :=
  !arg.isEmpty && arg.all fun c => c != ' ' && c != '"'

/-- The inside of a quoted argument, when a run of `run` backslashes has been read but not yet
written. -/
def escapeFrom (run : Nat) : List Char → List Char
  | [] => backslashes (run * 2)
  | c :: cs =>
    if c == '\\' then escapeFrom (run + 1) cs
    else if c == '"' then backslashes (run * 2 + 1) ++ '"' :: escapeFrom 0 cs
    else backslashes run ++ c :: escapeFrom 0 cs

/-- The written form of an argument. -/
def quoteChars (arg : List Char) : List Char :=
  if isPlain arg then arg else '"' :: (escapeFrom 0 arg ++ ['"'])

/-- Written arguments, with one space between neighbours. -/
def joinChars : List (List Char) → List Char
  | [] => []
  | [arg] => quoteChars arg
  | arg :: args => quoteChars arg ++ ' ' :: joinChars args

/-- The written form of an argument. -/
def quote : String → String := Text.onChars quoteChars

/-- A command line that holds the given arguments. -/
def join (args : List String) : String := String.ofList (joinChars (args.map String.toList))

@[simp] theorem joinChars_nil : joinChars [] = [] := rfl

@[simp] theorem joinChars_singleton (arg : List Char) : joinChars [arg] = quoteChars arg := rfl

theorem joinChars_cons_cons (a b : List Char) (args : List (List Char)) :
    joinChars (a :: b :: args) = quoteChars a ++ ' ' :: joinChars (b :: args) := rfl

@[simp] theorem toList_quote (arg : String) : (quote arg).toList = quoteChars arg.toList := by
  simp [quote]

@[simp] theorem toList_join (args : List String) :
    (join args).toList = joinChars (args.map String.toList) := by
  simp [join]

/-- An argument that needs no quotes is its own written form. -/
theorem quoteChars_of_isPlain {arg : List Char} (h : isPlain arg = true) :
    quoteChars arg = arg := by
  simp [quoteChars, h]

end Clinker.CommandLine

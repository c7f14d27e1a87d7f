import Clinker.Text.Basic

/-!
# Reading arguments

A command's grammar lists its options, says what its positional arguments are, and whether
arguments after `--` are kept apart. Arguments are read from left to right and the first one that
does not fit ends the reading, as does a request for help.

An option is written `--name`, `--name=value`, `--name value`, or with its letter `-n`, `-nvalue`,
`-n=value`, `-n value`; letters of flags may be joined. A value of its own must not start with a
hyphen unless it is nothing else.
-/

namespace Clinker.Cli

/-- What a value has to be. -/
inductive ValueKind
  | text
  /-- A text that is not empty. -/
  | path
  /-- A number of 64 bits. -/
  | count
deriving DecidableEq, Repr

/-- How often an option is given and with what. -/
inductive Arity
  /-- Once, without a value. -/
  | flag
  /-- Once, with a value. -/
  | single (kind : ValueKind)
  /-- Any number of times, with a value each time. -/
  | many (kind : ValueKind)
deriving DecidableEq, Repr

/-- An option of a command. -/
structure OptionRule where
  name : String
  letter : Option Char
  arity : Arity
deriving DecidableEq, Repr

/-- The positional arguments of a command. -/
inductive PositionalRule
  | none
  | single (kind : ValueKind)
  | many (kind : ValueKind)
  /-- Any number; from the first one on every argument is positional, and what is no option of the
  command is one as well. -/
  | verbatim
deriving DecidableEq, Repr

/-- What a command's arguments may be. -/
structure Grammar where
  options : List OptionRule
  positional : PositionalRule
  /-- Whether arguments after `--` are kept apart from the positional ones. -/
  keepsTrailing : Bool
deriving DecidableEq, Repr

/-- Arguments that have been read. -/
structure Reading where
  flags : List String := []
  /-- The values of options, in order. -/
  values : List (String × String) := []
  positionals : List String := []
  /-- The arguments after `--`, where these are kept apart. -/
  trailing : List String := []
deriving DecidableEq, Repr

/-- Why arguments cannot be read. -/
inductive UsageError
  | unknownOption (option : String)
  | unexpectedArgument (arg : String)
  | unneededValue (option : String)
  | missingValue (option : String)
  | badValue (option value : String)
  | repeated (option : String)
  | missingArgument (name : String)
  | conflict (a b : String)
  | unknownCommand (name : String)
  | missingCommand
deriving DecidableEq, Repr

/-- What is said of arguments that cannot be read. -/
def UsageError.message : UsageError → String
  | .unknownOption o => s!"unexpected option '{o}'"
  | .unexpectedArgument a => s!"unexpected argument '{a}'"
  | .unneededValue o => s!"'{o}' takes no value"
  | .missingValue o => s!"'{o}' needs a value"
  | .badValue o v => s!"invalid value '{v}' for '{o}'"
  | .repeated o => s!"'{o}' cannot be used multiple times"
  | .missingArgument n => s!"'{n}' is required"
  | .conflict a b => s!"'{a}' cannot be used with '{b}'"
  | .unknownCommand n => s!"unrecognized command '{n}'"
  | .missingCommand => "a command is required"

/-- What ends the reading of arguments early. -/
inductive Stop
  | usage (e : UsageError)
  | help
  | version
deriving DecidableEq, Repr

/-! ## Values -/

/-- The number that a text is, if it has 64 bits. A plus sign may stand in front. -/
def count? (text : String) : Option Nat :=
  let digits := match text.toList with
    | '+' :: rest => rest
    | cs => cs
  let n := digits.foldl (fun n c => n * 10 + (c.toNat - '0'.toNat)) 0
  if digits != [] && digits.all Char.isDigit && n < UInt64.size then some n else none

/-- Whether a text is a value of some kind. -/
def ValueKind.admits : ValueKind → String → Bool
  | text, _ => true
  | path, value => value != ""
  | count, value => (count? value).isSome

/-! ## Arguments -/

/-- What an argument is written as. -/
inductive Token
  /-- The mark after which nothing is an option. -/
  | separator
  | long (name : String) (value : Option String)
  /-- Letters of flags, the last of which may be that of an option with its value. -/
  | letters (cs : List Char)
  | plain (text : String)
deriving DecidableEq, Repr

/-- What an argument is written as. -/
def Token.ofArg (arg : String) : Token :=
  match arg.toList with
  | ['-', '-'] => .separator
  | '-' :: '-' :: rest =>
    match Text.cutAt '=' rest with
    | some (name, value) => .long (String.ofList name) (some (String.ofList value))
    | none => .long (String.ofList rest) none
  | '-' :: c :: rest => .letters (c :: rest)
  | _ => .plain arg

namespace OptionRule

/-- The option as messages name it. -/
def label (o : OptionRule) : String := "--" ++ o.name

/-- Whether the option takes a value. -/
def takesValue (o : OptionRule) : Bool := o.arity != .flag

end OptionRule

namespace Grammar

/-- The request for help, which every command understands. -/
def helpRule : OptionRule := ⟨"help", some 'h', .flag⟩

/-- The option of a name. -/
def named? (g : Grammar) (name : String) : Option OptionRule :=
  (helpRule :: g.options).find? (·.name == name)

/-- The option of a letter. -/
def lettered? (g : Grammar) (c : Char) : Option OptionRule :=
  (helpRule :: g.options).find? (·.letter == some c)

/-- What an argument is for a command. Where positional arguments are taken verbatim, an argument
that merely looks like options is a value. -/
def tokenOf (g : Grammar) (arg : String) : Token :=
  let token := Token.ofArg arg
  let known := match token with
    | .long name _ => (g.named? name).isSome
    | .letters cs => cs.all fun c => (g.lettered? c).isSome
    | _ => true
  if g.positional == .verbatim && !known then .plain arg else token

end Grammar

/-! ## Reading -/

namespace Reading

/-- Take a flag. -/
def takeFlag (r : Reading) (o : OptionRule) : Except Stop Reading :=
  if o.name == "help" then .error .help
  else if o.name == "version" then .error .version
  else if r.flags.contains o.name then .error (.usage (.repeated o.label))
  else .ok { r with flags := r.flags ++ [o.name] }

/-- Take the value of an option. -/
def takeValue (r : Reading) (o : OptionRule) (value : String) : Except Stop Reading :=
  let added := { r with values := r.values ++ [(o.name, value)] }
  let checked (kind : ValueKind) : Except Stop Reading :=
    if kind.admits value then .ok added else .error (.usage (.badValue o.label value))
  match o.arity with
  | .flag => .error (.usage (.unneededValue o.label))
  | .many kind => checked kind
  | .single kind =>
    if r.values.any (·.1 == o.name) then .error (.usage (.repeated o.label)) else checked kind

/-- Take a positional argument. -/
def takePositional (r : Reading) (rule : PositionalRule) (arg : String) : Except Stop Reading :=
  let added := { r with positionals := r.positionals ++ [arg] }
  let refused : Except Stop Reading := .error (.usage (.unexpectedArgument arg))
  match rule with
  | .none => refused
  | .single kind => if r.positionals.isEmpty && kind.admits arg then .ok added else refused
  | .many kind => if kind.admits arg then .ok added else refused
  | .verbatim => .ok added

/-- Take joined letters. What is left is an option that still needs its value. -/
def takeLetters (g : Grammar) (r : Reading) : List Char →
    Except Stop (Reading × Option OptionRule)
  | [] => .ok (r, none)
  | c :: cs =>
    match g.lettered? c with
    | none => .error (.usage (.unknownOption (String.ofList ['-', c])))
    | some o =>
      if o.takesValue then
        match cs with
        | [] => .ok (r, some o)
        | '=' :: value | value => return (← r.takeValue o (String.ofList value), none)
      else do takeLetters g (← r.takeFlag o) cs

/-- Take an option written with its name. -/
def takeLong (g : Grammar) (r : Reading) (name : String) (value : Option String) :
    Except Stop (Reading × Option OptionRule) :=
  match g.named? name, value with
  | none, _ => .error (.usage (.unknownOption ("--" ++ name)))
  | some o, some value => return (← r.takeValue o value, none)
  | some o, none =>
    if o.takesValue then .ok (r, some o) else return (← r.takeFlag o, none)

/-- Take arguments that are not options. -/
def takeRest (g : Grammar) (r : Reading) (args : List String) : Except Stop Reading :=
  if g.keepsTrailing then .ok { r with trailing := args }
  else args.foldlM (fun r arg => r.takePositional g.positional arg) r

/-- Take arguments from left to right. `pending` is an option that still needs its value. -/
def take (g : Grammar) (r : Reading) (pending : Option OptionRule) :
    List String → Except Stop Reading
  | [] =>
    match pending with
    | none => .ok r
    | some o => .error (.usage (.missingValue o.label))
  | arg :: rest =>
    match pending, g.tokenOf arg with
    | some o, .plain text => do take g (← r.takeValue o text) none rest
    | some o, _ => .error (.usage (.missingValue o.label))
    | none, .separator => r.takeRest g rest
    | none, .long name value => do
      let (r, pending) ← r.takeLong g name value
      take g r pending rest
    | none, .letters cs => do
      let (r, pending) ← r.takeLetters g cs
      take g r pending rest
    | none, .plain text => do
      let r ← r.takePositional g.positional text
      if g.positional == .verbatim then r.takeRest g rest else take g r none rest

/-! ## What has been read -/

/-- Whether a flag was given. -/
def has (r : Reading) (flag : String) : Bool := r.flags.contains flag

/-- The value of an option that is given at most once. -/
def value? (r : Reading) (option : String) : Option String := r.values.lookup option

/-- The values of an option. -/
def valuesOf (r : Reading) (option : String) : List String :=
  r.values.filterMap fun (name, value) => if name == option then some value else none

/-- The value of an option that must be given. -/
def required (r : Reading) (option : String) : Except Stop String :=
  match r.value? option with
  | some value => .ok value
  | none => .error (.usage (.missingArgument ("--" ++ option)))

end Reading

/-- Read a command's arguments. -/
def Grammar.read (g : Grammar) (args : List String) : Except Stop Reading :=
  Reading.take g {} none args

end Clinker.Cli

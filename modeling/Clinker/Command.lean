import Clinker.CommandLine.Quote
import Clinker.Encoding.Utf16
import Clinker.Encoding.Utf8
import Clinker.Path
import Clinker.Text.Space
import Clinker.Variables

/-!
# Commands and what they answer

A command names a program, its arguments, the variables set for it, and how the bytes it writes
to each stream are text. What comes back is an exit code, or none when a signal ended the
program, and the two texts.
-/

namespace Clinker

/-- How the bytes of a stream become text. -/
inductive StreamEncoding
  /-- UTF-8 in which bytes that are no text are replaced; for output that is only shown. -/
  | lossy
  /-- UTF-8 and nothing else. -/
  | utf8
  /-- UTF-16, low byte first, and nothing else. -/
  | utf16le
deriving DecidableEq, Repr

namespace StreamEncoding

/-- The name of the encoding in messages. -/
def name : StreamEncoding → String
  | lossy | utf8 => "UTF-8"
  | utf16le => "UTF-16LE"

/-- The text that some bytes are, if the encoding admits them. -/
def decode? : StreamEncoding → ByteArray → Option String
  | lossy, bytes => some (Encoding.Utf8.decodeLossy bytes)
  | utf8, bytes => String.fromUTF8? bytes
  | utf16le, bytes => Encoding.Utf16.decode? bytes

end StreamEncoding

/-- A program to run. -/
structure Command where
  program : Path
  args : List String
  /-- Variables set for the program, in order; a later setting of a name wins. -/
  env : List (String × String)
  stdout : StreamEncoding
  stderr : StreamEncoding
deriving DecidableEq, Repr

namespace Command

/-- A command whose output is only shown. -/
def plain (program : Path) (args : List String) (env : List (String × String)) : Command :=
  ⟨program, args, env, .lossy, .lossy⟩

/-- Whether some argument is exactly `arg`. -/
def hasArg (c : Command) (arg : String) : Bool := c.args.contains arg

/-- Program and arguments as one line that the tools cut the same way. -/
def line (c : Command) : String := CommandLine.join (c.program.text :: c.args)

/-- The variables the program is started with beyond those it inherits: each name once, with the
last value set for it. -/
def childVariables (c : Command) : List (String × String) :=
  Variables.ofSettings c.env

end Command

/-- What a program that ran has left. -/
structure ToolOutput where
  /-- The exit code, unless a signal ended the program. -/
  code : Option Int
  stdout : String
  stderr : String
deriving DecidableEq, Repr

namespace ToolOutput

/-- Whether the program reported success. -/
def succeeded (o : ToolOutput) : Bool := o.code == some 0

/-- Both texts as one, standard output first. A blank one is left out. -/
def combined (o : ToolOutput) : String :=
  if Text.isBlank o.stdout then o.stderr
  else if Text.isBlank o.stderr then o.stdout
  else Text.trimEnd o.stdout ++ "\n" ++ o.stderr

end ToolOutput

end Clinker

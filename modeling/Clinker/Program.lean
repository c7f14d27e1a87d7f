import Clinker.Host
import Clinker.Workshop

/-!
# Starting programs

A runner of tools made from whatever starts programs. What a program writes is bytes; the command
says how they are text. Standard output is decoded before standard error, and a stream that cannot
be decoded makes the run an error whatever the program's exit code was.
-/

namespace Clinker

/-- What a program that ran has left, before its output is decoded. -/
structure RawOutput where
  code : Option Int
  stdout : ByteArray
  stderr : ByteArray

namespace RawOutput

/-- The text of one stream. -/
def decodeStream (program : Path) (stream : String) (encoding : StreamEncoding)
    (bytes : ByteArray) : Except BuildError String :=
  match encoding.decode? bytes with
  | some text => .ok text
  | none =>
    .error (.badConfiguration
      s!"{program.text} wrote {stream} that is not valid {encoding.name}")

/-- The output of a command, decoded as the command says. -/
def decode (raw : RawOutput) (c : Command) : Except BuildError ToolOutput := do
  let stdout ← decodeStream c.program "stdout" c.stdout raw.stdout
  let stderr ← decodeStream c.program "stderr" c.stderr raw.stderr
  return ⟨raw.code, stdout, stderr⟩

end RawOutput

/-- Starts programs, given the program, its arguments and the variables it gets beyond those it
inherits. `σ` is what is remembered between starts. -/
structure Starter (σ : Type) where
  start : Path → List String → List (String × String) → σ → FileSystem →
    Except SystemError RawOutput × σ × FileSystem

/-- Whether a text can be handed to the system, which ends texts at the first NUL. -/
def isNulFree (s : String) : Bool := !s.toList.contains '\x00'

/-- Whether all parts of a command can be handed to the system. -/
def Command.isNulFree (c : Command) : Bool :=
  Clinker.isNulFree c.program.text && c.args.all Clinker.isNulFree &&
    c.childVariables.all fun (k, v) => Clinker.isNulFree k && Clinker.isNulFree v

/-- The runner of tools that starts their programs. -/
def Starter.runner {σ : Type} (s : Starter σ) : ToolRunner σ where
  run c memory files :=
    if c.isNulFree then
      match s.start c.program c.args c.childVariables memory files with
      | (.error cause, memory, files) => (.error (.cannotStart c.program cause), memory, files)
      | (.ok raw, memory, files) => (raw.decode c, memory, files)
    else (.error (.cannotStart c.program .nulInArgument), memory, files)

/-! ## Which file a program is -/

namespace FileSystem

/-- Whether the file a path names can be run, or why not. -/
def checkProgram (fs : FileSystem) (p : Path) : Except SystemError Path := do
  let loc ← fs.locate p
  match fs.lookup? loc with
  | none => .error .notFound
  | some .directory | some (.file _ false) => .error .permissionDenied
  | some (.file _ true) => if p.endsInSeparator then .error .notADirectory else .ok p

/-- The first of some paths that can be run. What cannot be run is passed over; in the end a file
without permission counts for more than a missing one. -/
def firstProgram (fs : FileSystem) (denied : Bool) (last : SystemError) :
    List Path → Except SystemError Path
  | [] => .error (if denied then .permissionDenied else last)
  | p :: ps =>
    match fs.checkProgram p with
    | .ok found => .ok found
    | .error .permissionDenied => fs.firstProgram true last ps
    | .error e => fs.firstProgram denied e ps

/-- The file that a program's name stands for. A name without separators is looked for on the
search path. -/
def programOf (fs : FileSystem) (searchPath : String) (program : Path) :
    Except SystemError Path :=
  if program.isEmpty then .error .notFound
  else if program.text.toList.contains '/' then fs.checkProgram program
  else fs.firstProgram false .notFound <|
    (Text.piecesAt ':' searchPath).map fun dir => (Path.mk dir).join program

end FileSystem

end Clinker

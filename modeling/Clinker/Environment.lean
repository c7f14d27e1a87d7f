import Clinker.Error
import Clinker.Text.Casing
import Clinker.Variables

/-!
# The environment that the setup script leaves

Windows does not distinguish the case of variable names, so names are stored in upper case and
looked up that way; of two settings whose names agree then, the later one counts. An environment
is read from the listing that `set` prints, or built from pairs.
-/

namespace Clinker

/-- Variables by their names in upper case. -/
structure Environment where
  vars : List (String × String)
deriving DecidableEq, Repr

namespace Environment

/-! ## Reading -/

/-- The variable a line of a listing sets, if it sets one. Lines that start with `=` belong to the
command interpreter. -/
def readLine? (line : List Char) : Option (String × String) :=
  if line.head? == some '=' then none
  else match Text.cutAt '=' line with
    | none => none
    | some (name, value) =>
      if name.all Text.isSpace then none
      else some (Text.upper (String.ofList (Text.trimChars name)),
        String.ofList (Text.dropEndWhile (· == '\r') value))

/-- The environment listed by `set`. -/
def ofListing (listing : String) : Environment :=
  ⟨Variables.ofSettings ((Text.lines listing.toList).filterMap readLine?)⟩

/-- The environment of some settings, in order. -/
def ofPairs (settings : List (String × String)) : Environment :=
  ⟨Variables.ofSettings (settings.map fun (k, v) => (Text.upper k, v))⟩

/-- The environment of settings given as bytes; a pair that is not text is left out. -/
def ofBytes (settings : List (ByteArray × ByteArray)) : Environment :=
  ofPairs <| settings.filterMap fun (k, v) =>
    match String.fromUTF8? k, String.fromUTF8? v with
    | some k, some v => some (k, v)
    | _, _ => none

/-! ## Looking up -/

/-- The value of a variable, whatever the case of its name. -/
def get? (env : Environment) (name : String) : Option String :=
  Variables.get? (Text.upper name) env.vars

/-- The value of a variable that `script` must have set to more than white space. -/
def require (env : Environment) (name : String) (script : Path) : Except BuildError String :=
  match env.get? name with
  | some value => if Text.isBlank value then .error (.missingVariable name script) else .ok value
  | none => .error (.missingVariable name script)

/-- The directories of the search path, in order. -/
def pathDirectories (env : Environment) : List Path :=
  match env.get? "PATH" with
  | none => []
  | some path =>
    (((Text.piecesAt ';' path).map Text.trim).filter (· != "")).map Path.mk

/-- The first place on the search path that holds a file of some name. -/
def findTool? (env : Environment) (fs : FileSystem) (executable : String) : Option Path :=
  (env.pathDirectories.map fun dir => dir.join ⟨executable⟩).find? fs.isFile

/-- How many variables there are. -/
def size (env : Environment) : Nat := env.vars.length

end Environment

end Clinker

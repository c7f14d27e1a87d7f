import Clinker.FileSystem.Basic

/-!
# Reading and changing files

Each operation either happens or is refused with a `SystemError`. What can be refused halfway leaves
something behind: `createDirectories` some of the directories, and a write that breaks off the
beginning of the content. Such operations return what they leave in either case.

Beyond what is in the files, a refusal depends on `Limits`: permissions, and the room on the disk.
They are no part of a file system and stay the same while a build runs. Reading is not limited.
The operations below the line on reports add what was being attempted to the refusal.
-/

namespace Clinker

/-- What the system refuses whatever is in the files, with its reasons in its own words. -/
structure Limits where
  /-- Why nothing can be made at a location where nothing is. -/
  create : Location → Option String := fun _ => none
  /-- Why the file at a location cannot be opened for writing. -/
  overwrite : Location → Option String := fun _ => none
  /-- Why the file at a location cannot be removed. -/
  remove : Location → Option String := fun _ => none
  /-- After how many bytes a write to a location breaks off, and why. -/
  room : Location → Option (Nat × String) := fun _ => none

/-- A write that was refused: why, and the file system it leaves. -/
structure Refusal where
  cause : SystemError
  left : FileSystem

namespace FileSystem

/-! ## Operations of the system -/

/-- The content of a file. -/
def readBytes (fs : FileSystem) (p : Path) : Except SystemError ByteArray := do
  let loc ← fs.locate p
  match fs.lookup? loc with
  | none => .error .notFound
  | some .directory => .error .isADirectory
  | some (.file content _) => if p.endsInSeparator then .error .notADirectory else .ok content

/-- The content of a file, as text. -/
def readText (fs : FileSystem) (p : Path) : Except SystemError String := do
  match String.fromUTF8? (← fs.readBytes p) with
  | some text => .ok text
  | none => .error .invalidUtf8

/-- Put content into a file that has been opened, and so emptied. -/
def fill (fs : FileSystem) (loc : Location) (content : ByteArray) (executable : Bool)
    (limits : Limits) : Except Refusal FileSystem :=
  match limits.room loc with
  | none => .ok (fs.set loc (.file content executable))
  | some (bytes, why) =>
    if bytes < content.size then
      .error ⟨.other why, fs.set loc (.file (content.extract 0 bytes) executable)⟩
    else .ok (fs.set loc (.file content executable))

/-- Give a file new content, creating it if there is none. -/
def writeBytes (fs : FileSystem) (p : Path) (content : ByteArray) (limits : Limits := {}) :
    Except Refusal FileSystem :=
  match fs.locate p with
  | .error e => .error ⟨e, fs⟩
  | .ok loc =>
    if !endsInName p || p.endsInSeparator then .error ⟨.isADirectory, fs⟩
    else match fs.lookup? loc with
      | some .directory => .error ⟨.isADirectory, fs⟩
      | some (.file _ executable) =>
        match limits.overwrite loc with
        | some why => .error ⟨.other why, fs⟩
        | none => fs.fill loc content executable limits
      | none =>
        match limits.create loc with
        | some why => .error ⟨.other why, fs⟩
        | none => fs.fill loc content false limits

/-- Give a file a text as new content, creating it if there is none. -/
def writeText (fs : FileSystem) (p : Path) (text : String) (limits : Limits := {}) :
    Except Refusal FileSystem :=
  fs.writeBytes p text.toUTF8 limits

/-- Remove a file. -/
def removeFile (fs : FileSystem) (p : Path) (limits : Limits) : Except SystemError FileSystem := do
  let loc ← fs.locate p
  if !endsInName p then .error .isADirectory
  else match fs.lookup? loc with
    | none => .error .notFound
    | some .directory => .error .isADirectory
    | some (.file ..) =>
      if p.endsInSeparator then .error .notADirectory
      else match limits.remove loc with
        | some why => .error (.other why)
        | none => .ok (fs.erase loc)

/-- Remove a file, if there is one. -/
def removeFileIfExists (fs : FileSystem) (p : Path) (limits : Limits := {}) :
    Except SystemError FileSystem :=
  match fs.removeFile p limits with
  | .error .notFound => .ok fs
  | r => r

/-- Create one directory. -/
def makeDirectory (fs : FileSystem) (p : Path) (limits : Limits) :
    Except SystemError FileSystem := do
  let loc ← fs.locate p
  if !endsInName p then .error .alreadyExists
  else match fs.lookup? loc with
    | some _ => .error .alreadyExists
    | none =>
      match limits.create loc with
      | some why => .error (.other why)
      | none => .ok (fs.set loc .directory)

/-- Create a directory unless it is there already. -/
def ensureDirectory (fs : FileSystem) (p : Path) (limits : Limits) :
    Except SystemError FileSystem :=
  match fs.makeDirectory p limits with
  | .error e => if fs.isDirectory p then .ok fs else .error e
  | r => r

/-- Create the first of the given directories, each of which lies below the next one; those that
are missing come first. -/
def createLineage (fs : FileSystem) (limits : Limits) :
    List Path → Except SystemError Unit × FileSystem
  | [] => (.ok (), fs)
  | p :: above =>
    match fs.ensureDirectory p limits with
    | .ok fs' => (.ok (), fs')
    | .error .notFound =>
      match fs.createLineage limits above with
      | (.error e, fs') => (.error e, fs')
      | (.ok (), fs') =>
        match fs'.ensureDirectory p limits with
        | .ok fs'' => (.ok (), fs'')
        | .error e => (.error e, fs')
    | .error e => (.error e, fs)

/-- Create a directory and the directories above it that are missing. -/
def createDirectories (fs : FileSystem) (p : Path) (limits : Limits := {}) :
    Except SystemError Unit × FileSystem :=
  fs.createLineage limits p.lineage

/-- Create the directory that a path lies in. -/
def createParent (fs : FileSystem) (p : Path) (limits : Limits := {}) :
    Except SystemError Unit × FileSystem :=
  match p.writtenParent? with
  | none => (.ok (), fs)
  | some q => fs.createDirectories q limits

end FileSystem

/-! ## Refusals that say what was attempted -/

/-- An attempt on a file that failed, and why. -/
inductive FileError
  | read (path : Path) (cause : SystemError)
  | createParent (path : Path) (cause : SystemError)
  | write (path : Path) (cause : SystemError)
deriving DecidableEq, Repr

namespace FileError

/-- What was being attempted. -/
def message : FileError → String
  | .read p _ => s!"failed to read file: {p.text}"
  | .createParent p _ => s!"failed to create directory for: {p.text}"
  | .write p _ => s!"failed to write file: {p.text}"

/-- Why it failed. -/
def cause : FileError → SystemError
  | .read _ c | .createParent _ c | .write _ c => c

end FileError

namespace FileSystem

/-- The text of a file. -/
def loadText (fs : FileSystem) (p : Path) : Except FileError String :=
  (fs.readText p).mapError (.read p)

/-- Write a text to a file, creating the directories it lies in. -/
def saveText (fs : FileSystem) (p : Path) (text : String) (limits : Limits := {}) :
    Except FileError Unit × FileSystem :=
  match fs.createParent p limits with
  | (.error e, fs') => (.error (.createParent p e), fs')
  | (.ok (), fs') =>
    match fs'.writeText p text limits with
    | .error refusal => (.error (.write p refusal.cause), refusal.left)
    | .ok fs'' => (.ok (), fs'')

end FileSystem

end Clinker

import Clinker.Cli.Run
import Clinker.Program

/-!
# The program

Takes a picture of the files that a command can read, carries the command out on it, and brings
the disk to what the command has left. All decisions are made by `Cli.run`; this module starts no
programs itself, so commands that need a tool say that it cannot be started.
-/

namespace Clinker.Main

/-- The variables that commands look at. -/
def variableNames : List String :=
  ["HOME", "TMPDIR", "PATH", "COMSPEC", "ProgramFiles", "ProgramFiles(x86)", "INCLUDE", "LIB",
   "VCToolsInstallDir", "WindowsSdkDir", "VSCMD_ARG_TGT_ARCH", "VisualStudioVersion", "VSCMD_VER",
   "VSINSTALLDIR"]

/-- The process this program runs in. -/
def readHost : IO Host := do
  let values ← variableNames.mapM fun name => do return (← IO.getEnv name).map fun v => (name, v)
  return ⟨values.filterMap id, none⟩

/-- A file system with nothing but its working directory. -/
def bareFiles (directory : Path) : FileSystem :=
  { (FileSystem.createDirectories ⟨[], []⟩ directory {}).2 with current := directory.steps }

/-- The picture with one more file, if there is one. -/
def addFile (fs : FileSystem) (p : Path) : IO FileSystem := do
  try
    let content ← IO.FS.readBinFile p.text
    match (fs.createParent p {}).2.writeBytes p content {} with
    | .ok fs => return fs
    | .error _ => return fs
  catch _ => return fs

/-- The files that arguments and configuration name. -/
def readFiles (h : Host) (args : List String) : IO FileSystem := do
  let directory : Path := ⟨(← IO.getEnv "PWD").getD "/"⟩
  let configurations := (Configuration.userFile? h).toList ++ [Configuration.fileIn directory]
  (configurations ++ args.map Path.mk).foldlM addFile (bareFiles directory)

/-- Bring one place on the disk to what an entry says. -/
def writeEntry (loc : Location) (e : Entry) : IO Unit := do
  let place := "/" ++ Text.join "/" loc
  match e with
  | .directory => IO.FS.createDirAll place
  | .file content _ => IO.FS.writeBinFile place content

/-- Whether an entry is what a place holds already. -/
def isKept (before : FileSystem) (loc : Location) (e : Entry) : Bool :=
  match before.lookup? loc, e with
  | some .directory, .directory => true
  | some (.file old _), .file new _ => old == new
  | _, _ => false

/-- Bring the disk from one picture to another, directories before what they hold. -/
def writeFiles (before after : FileSystem) : IO Unit := do
  let changed := after.entries.filter fun (loc, e) => !isKept before loc e
  for (loc, e) in changed.mergeSort fun a b => a.1.length ≤ b.1.length do
    writeEntry loc e

/-- A starter of programs that starts none. -/
def noPrograms : Starter Unit where
  start _ _ _ memory fs := (.error (.other "programs cannot be started here"), memory, fs)

end Clinker.Main

open Clinker in
def main (args : List String) : IO UInt32 := do
  let h ← Main.readHost
  let before ← Main.readFiles h args
  let w : Workshop Unit := .start before () none
  let (transcript, w) := Cli.run h Main.noPrograms.runner false args w
  Main.writeFiles before w.files
  IO.print transcript.stdout
  IO.eprint transcript.stderr
  return transcript.code.toUInt32

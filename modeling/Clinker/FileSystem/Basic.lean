import Clinker.Path

/-!
# A file system as a value

A file system is a finite map from locations to files and directories, with a working directory
for relative paths. There are no links, and no permissions but the executable mark of a file: what
else the system may refuse is no part of the value (`Limits`).

Paths are resolved as the Linux kernel does it: component by component, each step requiring that
what has been reached so far is a directory. The view of a file system is `lookup?`; an update is
described by what it does to that view.
-/

namespace Clinker

/-- Why the system refused an operation on a file or a program. -/
inductive SystemError
  | notFound
  | permissionDenied
  | alreadyExists
  | notADirectory
  | isADirectory
  | nameTooLong
  | invalidUtf8
  | nulInPath
  | nulInArgument
  | other (text : String)
deriving DecidableEq, Repr

/-- The wording of a refusal. -/
def SystemError.message : SystemError → String
  | .notFound => "No such file or directory (os error 2)"
  | .permissionDenied => "Permission denied (os error 13)"
  | .alreadyExists => "File exists (os error 17)"
  | .notADirectory => "Not a directory (os error 20)"
  | .isADirectory => "Is a directory (os error 21)"
  | .nameTooLong => "File name too long (os error 36)"
  | .invalidUtf8 => "stream did not contain valid UTF-8"
  | .nulInPath => "file name contained an unexpected NUL byte"
  | .nulInArgument => "nul byte found in provided data"
  | .other text => text

/-- The names that lead from the root to a place. -/
abbrev Location := List String

/-- What is found at a location. -/
inductive Entry
  | directory
  | file (content : ByteArray) (executable : Bool)

/-- Files and directories below the root, and the directory that relative paths start from. -/
structure FileSystem where
  entries : List (Location × Entry)
  current : Location

namespace FileSystem

/-! ## The view -/

/-- What is at a location. The root is always a directory. -/
def lookup? (fs : FileSystem) (loc : Location) : Option Entry :=
  if loc.isEmpty then some .directory else fs.entries.lookup loc

/-- The file system with an entry put at a location. -/
def set (fs : FileSystem) (loc : Location) (e : Entry) : FileSystem :=
  { fs with entries := (loc, e) :: fs.entries.filter (·.1 != loc) }

/-- The file system with nothing at a location. -/
def erase (fs : FileSystem) (loc : Location) : FileSystem :=
  { fs with entries := fs.entries.filter (·.1 != loc) }

/-- The names directly below a location, with what they name. -/
def children (fs : FileSystem) (loc : Location) : List (String × Entry) :=
  fs.entries.filterMap fun (l, e) =>
    match l.getLast? with
    | some name => if l.dropLast == loc then some (name, e) else none
    | none => none

@[simp] theorem current_set (fs : FileSystem) (loc : Location) (e : Entry) :
    (fs.set loc e).current = fs.current := rfl

@[simp] theorem current_erase (fs : FileSystem) (loc : Location) :
    (fs.erase loc).current = fs.current := rfl

theorem lookup_filter_ne (l : List (Location × Entry)) {a b : Location} (h : a ≠ b) :
    (l.filter (·.1 != b)).lookup a = l.lookup a := by
  induction l with
  | nil => rfl
  | cons x xs ih =>
    obtain ⟨k, e⟩ := x
    by_cases hk : k = b
    · subst hk
      have hb : (a == k) = false := by simpa using h
      simp [List.lookup_cons, hb, ih]
    · have : (k != b) = true := by simpa using hk
      simp only [List.filter_cons, this, if_true, List.lookup_cons, ih]

theorem lookup_filter_self (l : List (Location × Entry)) (a : Location) :
    (l.filter (·.1 != a)).lookup a = none := by
  induction l with
  | nil => rfl
  | cons x xs ih =>
    obtain ⟨k, e⟩ := x
    by_cases hk : k = a
    · simp [hk, ih]
    · have : (k != a) = true := by simpa using hk
      have hka : (a == k) = false := by simpa using fun h : a = k => hk h.symm
      simp only [List.filter_cons, this, if_true, List.lookup_cons, hka, ih]

/-- What was put at a location is found there. -/
theorem lookup?_set_self (fs : FileSystem) {loc : Location} (h : loc ≠ []) (e : Entry) :
    (fs.set loc e).lookup? loc = some e := by
  simp [lookup?, set, h]

/-- Putting an entry at one location changes no other. -/
theorem lookup?_set_of_ne (fs : FileSystem) {loc other : Location} (h : other ≠ loc) (e : Entry) :
    (fs.set loc e).lookup? other = fs.lookup? other := by
  have hb : (other == loc) = false := by simpa using h
  simp [lookup?, set, List.lookup_cons, hb, lookup_filter_ne _ h]

/-- Nothing is found at an erased location. -/
theorem lookup?_erase_self (fs : FileSystem) {loc : Location} (h : loc ≠ []) :
    (fs.erase loc).lookup? loc = none := by
  simp [lookup?, erase, h, lookup_filter_self]

/-- Erasing one location changes no other. -/
theorem lookup?_erase_of_ne (fs : FileSystem) {loc other : Location} (h : other ≠ loc) :
    (fs.erase loc).lookup? other = fs.lookup? other := by
  simp [lookup?, erase, lookup_filter_ne _ h]

/-! ## Resolving paths -/

/-- The longest name, and the shortest text that is too long for a path, in bytes. -/
def maxNameBytes : Nat := 255
def maxPathBytes : Nat := 4096

/-- Follow steps from a location. What has been reached before a step must be a directory. -/
def walk (fs : FileSystem) (loc : Location) : List String → Except SystemError Location
  | [] => .ok loc
  | step :: rest =>
    match fs.lookup? loc with
    | none => .error .notFound
    | some (.file ..) => .error .notADirectory
    | some .directory =>
      if step == "." then fs.walk loc rest
      else if step == ".." then fs.walk loc.dropLast rest
      else if maxNameBytes < step.utf8ByteSize then .error .nameTooLong
      else fs.walk (loc ++ [step]) rest

/-- The location a path names, whether or not anything is there. -/
def locate (fs : FileSystem) (p : Path) : Except SystemError Location :=
  if p.text.toList.contains '\x00' then .error .nulInPath
  else if p.isEmpty then .error .notFound
  else if maxPathBytes ≤ p.text.utf8ByteSize then .error .nameTooLong
  else fs.walk (if p.isAbsolute then [] else fs.current) p.steps

/-- Whether the last step of a path is a name, so that the path can name something new. -/
def endsInName (p : Path) : Bool :=
  match p.steps.getLast? with
  | none => false
  | some step => step != "." && step != ".."

/-- The working directory as a path. -/
def currentPath (fs : FileSystem) : Path := ⟨"/" ++ Text.join "/" fs.current⟩

/-- What a path names, if anything. A separator at the end asks for a directory. -/
def stat? (fs : FileSystem) (p : Path) : Option Entry :=
  match fs.locate p with
  | .error _ => none
  | .ok loc =>
    match fs.lookup? loc with
    | some (.file content x) => if p.endsInSeparator then none else some (.file content x)
    | e => e

/-- Whether a path names anything. -/
def pathExists (fs : FileSystem) (p : Path) : Bool := (fs.stat? p).isSome

/-- Whether a path names a regular file. -/
def isFile (fs : FileSystem) (p : Path) : Bool := fs.stat? p matches some (.file ..)

/-- Whether a path names a directory. -/
def isDirectory (fs : FileSystem) (p : Path) : Bool := fs.stat? p matches some .directory

/-- Whether a path names a file that can be run. -/
def isExecutable (fs : FileSystem) (p : Path) : Bool := fs.stat? p matches some (.file _ true)

end FileSystem

end Clinker

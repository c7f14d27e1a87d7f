import Clinker.Error
import Clinker.Host
import Clinker.Text.Digit
import Clinker.Target.Variant

/-!
# Installations

A candidate is a directory that may hold editions of one release. The choice prefers candidates
of the release that a prebuilt companion was made with, then takes them in the order given; of a
candidate, the first listed edition that is present.
-/

namespace Clinker

/-- A directory that may hold installations of one release. -/
structure Candidate where
  root : Path
  version : String
deriving DecidableEq, Repr

/-- A prebuilt dependency whose binaries were made with one release. -/
structure Companion where
  root : Path
  versionTag : Option String
deriving DecidableEq, Repr

/-- The installation chosen for a run. -/
structure Installation where
  root : Path
  version : String
  edition : String
  directory : Path
deriving DecidableEq, Repr

/-- Editions, best first. -/
def standardEditions : List String := ["Enterprise", "Professional", "Community", "BuildTools"]

/-- The standard candidates of a machine, newest first. -/
def standardCandidates (h : Host) : List Candidate :=
  let programs := (h.get? "ProgramFiles").getD "C:\\Program Files"
  let programs32 := (h.get? "ProgramFiles(x86)").getD "C:\\Program Files (x86)"
  let candidate (base year : String) : Candidate :=
    ⟨(Path.mk base).joinAll ["Microsoft Visual Studio", year], year⟩
  [candidate programs "2022", candidate programs32 "2019", candidate programs32 "2017"]

/-! ## Releases -/

/-- Whether `c` is the lower case letter `letter` in either case; the long `s` is an `s`. -/
def isLetter (letter c : Char) : Bool :=
  c.toLower == letter || (letter == 's' && c.toNat == 0x17F)

/-- The four digits after the first `msvc` that four digits follow. -/
def releaseInName? : List Char → Option (List Char)
  | [] => none
  | c :: cs =>
    match c :: cs with
    | m :: s :: v :: k :: a :: b :: d :: e :: _ =>
      if isLetter 'm' m && isLetter 's' s && isLetter 'v' v && isLetter 'c' k &&
          [a, b, d, e].all Text.isDecimalDigit then some [a, b, d, e]
      else releaseInName? cs
    | _ => none

/-- The release that the name of a directory such as `msvc2019_64` mentions. -/
def releaseOfPath? (p : Path) : Option String := do
  return String.ofList (← releaseInName? (← p.fileName?).toList)

/-- The release a companion was made with: its tag, or else what its directory's name mentions. -/
def Companion.release? (c : Companion) : Option String := c.versionTag <|> releaseOfPath? c.root

/-- The year of a release by its version number, such as `16.0`. -/
def releaseYear? (version : String) : Option String :=
  match (Text.piecesAt '.' version).head?.map Text.trim with
  | some "15" => some "2017"
  | some "16" => some "2019"
  | some "17" => some "2022"
  | some "18" => some "2026"
  | _ => none

/-! ## The choice -/

namespace Candidate

/-- The installation of the first listed edition that is present. -/
def installation? (c : Candidate) (fs : FileSystem) (editions : List String) :
    Option Installation :=
  (editions.find? fun edition => fs.isDirectory (c.root.join ⟨edition⟩)).map fun edition =>
    ⟨c.root, c.version, edition, c.root.join ⟨edition⟩⟩

end Candidate

namespace Installation

/-- The setup script below an installation's directory. -/
def setupScriptIn (directory : Path) : Path :=
  directory.joinAll ["VC", "Auxiliary", "Build", "vcvarsall.bat"]

/-- The setup script of an installation. -/
def setupScript (i : Installation) : Path := setupScriptIn i.directory

/-- The installation to use for a companion of some release. -/
def select (fs : FileSystem) (candidates : List Candidate) (editions : List String)
    (release : Option String) : Except BuildError Installation :=
  let preferred := candidates.filter fun c => release == some c.version
  match (preferred ++ candidates).findSome? fun c => c.installation? fs editions with
  | some i => .ok i
  | none => .error (.noInstallation (candidates.map (·.root)))

end Installation

end Clinker

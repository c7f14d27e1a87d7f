import Clinker.Configuration.Basic
import Clinker.Toml.Document

/-!
# Configuration files

A configuration file is a TOML document with a table per section. Unknown keys are skipped and
missing ones have their defaults, but a known key must have a value of its type. A section, or an
entry of the list of candidates, may also be an array of its values in the order of the fields. A
date counts as a table without known keys.

There are two files, one of the user and one of the project. A file that is missing or unusable
contributes nothing.
-/

namespace Clinker

/-! ## Decoding -/

namespace Toml

/-- Whether a value can stand for a section. -/
def isSection : Toml → Bool
  | table _ | array _ | datetime => true
  | _ => false

/-- The value of a section's field, given the place of the field and its key. -/
def field? (v : Toml) (place : Nat) (key : String) : Option Toml :=
  match v with
  | table entries => entries.lookup key
  | array items => items[place]?
  | _ => none

/-- The path that a string is. -/
def path? (v : Toml) : Option Path := v.text?.map Path.mk

/-- The items of an array, each decoded. -/
def list? {α : Type} (decode : Toml → Option α) (v : Toml) : Option (List α) :=
  v.items?.bind fun items => items.mapM decode

/-- A field that may be missing. It fails only when it is there and cannot be decoded. -/
def optional? {α : Type} (decode : Toml → Option α) : Option Toml → Option (Option α)
  | none => some none
  | some v => (decode v).map some

/-- A field that is the empty list when it is missing. -/
def listField? {α : Type} (decode : Toml → Option α) (field : Option Toml) : Option (List α) :=
  (optional? (list? decode) field).map (·.getD [])

end Toml

/-- The candidate that an entry of the list describes. -/
def Candidate.ofToml? (v : Toml) : Option Candidate := do
  let root ← (← v.field? 0 "root").path?
  let version ← (← v.field? 1 "version").text?
  return ⟨root, version⟩

/-- The section about the toolchain. -/
def ToolchainSection.ofToml? (v : Toml) : Option ToolchainSection := do
  let arch ← Toml.optional? Toml.text? (v.field? 0 "arch")
  let variant ← Toml.optional? Toml.text? (v.field? 1 "variant")
  let candidates ← Toml.listField? Candidate.ofToml? (v.field? 2 "candidates")
  let editions ← Toml.listField? Toml.text? (v.field? 3 "editions")
  let prompt ← Toml.optional? Toml.bool? (v.field? 4 "use_developer_prompt")
  return ⟨arch, variant, candidates, editions, prompt⟩

/-- The section about a prebuilt dependency. -/
def CompanionSection.ofToml? (v : Toml) : Option CompanionSection := do
  let root ← Toml.optional? Toml.path? (v.field? 0 "root")
  let tag ← Toml.optional? Toml.text? (v.field? 1 "version_tag")
  return ⟨root, tag⟩

/-- The section about headers. -/
def DependencySection.ofToml? (v : Toml) : Option DependencySection := do
  return ⟨← Toml.listField? Toml.path? (v.field? 0 "exclude")⟩

/-- The section about builds. -/
def BuildSection.ofToml? (v : Toml) : Option BuildSection := do
  let jobs ← Toml.optional? Toml.nat? (v.field? 0 "jobs")
  let record ← Toml.optional? Toml.bool? (v.field? 1 "compile_commands")
  return ⟨jobs, record.getD false⟩

namespace Configuration

/-- A section of a document, or its default. -/
def section? {α : Type} (decode : Toml → Option α) (default : α) (field : Option Toml) :
    Option α :=
  match field with
  | none => some default
  | some v => if v.isSection then decode v else none

/-- The configuration that a document describes. -/
def ofToml? (v : Toml) : Option Configuration := do
  let toolchain ← section? ToolchainSection.ofToml? {} (v.field? 0 "toolchain")
  let companion ← section? CompanionSection.ofToml? {} (v.field? 1 "companion")
  let dependencies ← section? DependencySection.ofToml? {} (v.field? 2 "dependencies")
  let build ← section? BuildSection.ofToml? {} (v.field? 3 "build")
  return ⟨toolchain, companion, dependencies, build⟩

/-- The configuration that a text describes. -/
def ofText? (text : String) : Option Configuration := (Toml.ofText? text).bind ofToml?

end Configuration

/-! ## Files -/

/-- Why a configuration file cannot be used. -/
inductive ConfigurationError
  | unreadable (path : Path) (cause : SystemError)
  | malformed (path : Path)
deriving DecidableEq, Repr

/-- What is said of a configuration file that cannot be used. -/
def ConfigurationError.message : ConfigurationError → String
  | .unreadable p _ => s!"failed to read config file: {p.text}"
  | .malformed p => s!"failed to parse config file: {p.text}"

namespace Configuration

/-- The configuration in a file. -/
def load (fs : FileSystem) (p : Path) : Except ConfigurationError Configuration :=
  match fs.readText p with
  | .error cause => .error (.unreadable p cause)
  | .ok text => (ofText? text).elim (.error (.malformed p)) .ok

/-- What a file contributes: its configuration, or nothing if it cannot be used. -/
def contributionOf (fs : FileSystem) (p : Path) : Configuration :=
  match load fs p with
  | .ok c => c
  | .error _ => {}

/-- The configuration from the user's file and the project's, where the latter wins. -/
def loadBoth (fs : FileSystem) (user project : Path) : Configuration :=
  (contributionOf fs user).merge (contributionOf fs project)

/-- The name of the directory that holds a configuration file. -/
def directoryName : String := ".vcbridge"

/-- The configuration file of a directory. -/
def fileIn (directory : Path) : Path := directory.joinAll [directoryName, "config.toml"]

/-- The user's configuration file, if the user has a home directory. -/
def userFile? (h : Host) : Option Path := h.home?.map fileIn

/-- What applies to a project: its own file and the user's. -/
def ofProject (h : Host) (fs : FileSystem) (root : Path) : Configuration :=
  match userFile? h with
  | some user => loadBoth fs user (fileIn root)
  | none => contributionOf fs (fileIn root)

end Configuration

end Clinker

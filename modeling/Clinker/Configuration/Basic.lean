import Clinker.Setup

/-!
# Configuration

What a user sets once for many builds. A file need not set anything, so every value is optional or
a list that may be empty. Two configurations are merged key by key: what the second one sets wins,
except that excluded directories add up.
-/

namespace Clinker

/-- Where to look for a toolchain and what to set it up for. -/
structure ToolchainSection where
  arch : Option String := none
  variant : Option String := none
  /-- Directories to search, best first. None stand for the standard ones. -/
  candidates : List Candidate := []
  /-- Editions to look for, best first. None stand for the standard ones. -/
  editions : List String := []
  useDeveloperPrompt : Option Bool := none
deriving DecidableEq, Repr

/-- A prebuilt dependency. -/
structure CompanionSection where
  root : Option Path := none
  /-- The release it was made with, if its directory's name does not say so. -/
  versionTag : Option String := none
deriving DecidableEq, Repr

/-- What is recorded of headers. -/
structure DependencySection where
  /-- Directories whose headers are not recorded. -/
  exclude : List Path := []
deriving DecidableEq, Repr

/-- How builds run. -/
structure BuildSection where
  /-- How many compiles run at the same time. -/
  jobs : Option Nat := none
  /-- Whether a build writes a compilation database. -/
  compileCommands : Bool := false
deriving DecidableEq, Repr

/-- Everything a configuration file can set. -/
structure Configuration where
  toolchain : ToolchainSection := {}
  companion : CompanionSection := {}
  dependencies : DependencySection := {}
  build : BuildSection := {}
deriving DecidableEq, Repr

namespace Configuration

/-! ## Merging -/

/-- The first list unless the second one has items. -/
def overridden {α : Type} (a b : List α) : List α := if b.isEmpty then a else b

@[simp] theorem overridden_nil {α : Type} (a : List α) : overridden a [] = a := rfl

@[simp] theorem nil_overridden {α : Type} (b : List α) : overridden [] b = b := by
  cases b <;> rfl

/-- The first configuration with what the second one sets. -/
def merge (a b : Configuration) : Configuration where
  toolchain := {
    arch := b.toolchain.arch <|> a.toolchain.arch
    variant := b.toolchain.variant <|> a.toolchain.variant
    candidates := overridden a.toolchain.candidates b.toolchain.candidates
    editions := overridden a.toolchain.editions b.toolchain.editions
    useDeveloperPrompt := b.toolchain.useDeveloperPrompt <|> a.toolchain.useDeveloperPrompt }
  companion := {
    root := b.companion.root <|> a.companion.root
    versionTag := b.companion.versionTag <|> a.companion.versionTag }
  dependencies := { exclude := a.dependencies.exclude ++ b.dependencies.exclude }
  build := {
    jobs := b.build.jobs <|> a.build.jobs
    compileCommands := a.build.compileCommands || b.build.compileCommands }

/-! ## What follows from a configuration -/

/-- The architecture that is set, or x64. -/
def architecture (c : Configuration) : Except UnknownName Architecture :=
  match c.toolchain.arch with
  | some name => Architecture.ofName name
  | none => .ok .x64

/-- The variant that is set, or the one for debugging. -/
def buildVariant (c : Configuration) : Except UnknownName Variant :=
  match c.toolchain.variant with
  | some name => Variant.ofName name
  | none => .ok .debug

/-- The prebuilt dependency, if its directory is set. -/
def prebuilt? (c : Configuration) : Option Companion :=
  c.companion.root.map fun root => ⟨root, c.companion.versionTag⟩

/-- What a session is set up from. An architecture or variant that is given wins over the one that
is set. -/
def settings (c : Configuration) (h : Host) (arch : Option Architecture)
    (variant : Option Variant) : Except UnknownName SetupSettings := do
  let arch ← arch.elim c.architecture .ok
  let variant ← variant.elim c.buildVariant .ok
  return {
    arch := arch
    variant := variant
    candidates := overridden (standardCandidates h) c.toolchain.candidates
    editions := overridden standardEditions c.toolchain.editions
    companion := c.prebuilt?
    extraExclusions := c.dependencies.exclude
    useDeveloperPrompt := c.toolchain.useDeveloperPrompt.getD true }

end Configuration

end Clinker

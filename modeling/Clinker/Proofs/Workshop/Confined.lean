import Clinker.Proofs.FileSystem.Places
import Clinker.Workshop

/-!
# Tools that keep to some files

A runner is confined on a command to some paths when its answer and what it does to files are
determined by the command, and it does something to files at these paths only (`Confined`). It
then leaves everything else in a folder as it is (`agreeOn_touchAll`), and does the same in file
systems that agree on these paths (`AgreeOn.touchAll`).
-/

namespace Clinker

open Clinker.Path (IsName)

/-! ## Touching files -/

/-- Something a tool does to a file: give it new content, or remove it. -/
structure Touch where
  path : Path
  content : Option ByteArray

namespace FileSystem

/-- Do to a file what a tool does. What is refused does not happen. -/
def touch (fs : FileSystem) (t : Touch) : FileSystem :=
  match t.content with
  | some content =>
    match fs.writeBytes t.path content {} with
    | .ok fs' => fs'
    | .error refusal => refusal.left
  | none =>
    match fs.removeFileIfExists t.path {} with
    | .ok fs' => fs'
    | .error _ => fs

/-- Do to files what a tool does, one after the other. -/
def touchAll (fs : FileSystem) (touches : List Touch) : FileSystem := touches.foldl touch fs

variable {fs fs' : FileSystem} {dir : Path} {name : String} {names own : List String}

/-- The operation behind a touch. -/
def Operation.touching : Option ByteArray → Operation
  | some content => .writing content {}
  | none => .removing {}

theorem touch_join (h : IsName name) (fs : FileSystem) (content : Option ByteArray) :
    fs.touch ⟨dir.join ⟨name⟩, content⟩ =
      (fs.revise (dir.join ⟨name⟩) (.touching content)).2 := by
  cases content with
  | none =>
    rw [Operation.touching, revise_removing h, touch]
    cases fs.removeFileIfExists (dir.join ⟨name⟩) {} <;> rfl
  | some content =>
    rw [Operation.touching, revise_writing h, touch]
    simp only
    cases fs.writeBytes (dir.join ⟨name⟩) content {} <;> rfl

theorem agreeOn_touch (hs : Settled dir fs) (hname : IsName name) (hmem : name ∉ names)
    (content : Option ByteArray) : AgreeOn dir names fs (fs.touch ⟨dir.join ⟨name⟩, content⟩) := by
  rw [touch_join hname]
  exact agreeOn_revise hs hname hmem _

theorem AgreeOn.touch (h : AgreeOn dir names fs fs') (hname : IsName name) (hmem : name ∈ names)
    (content : Option ByteArray) : AgreeOn dir names (fs.touch ⟨dir.join ⟨name⟩, content⟩)
      (fs'.touch ⟨dir.join ⟨name⟩, content⟩) := by
  rw [touch_join hname, touch_join hname]
  exact (h.revise hname hmem (.touching content)).2

/-- Every touch is at one of some names in a folder. -/
def TouchesIn (dir : Path) (own : List String) (touches : List Touch) : Prop :=
  ∀ t ∈ touches, ∃ name ∈ own, IsName name ∧ t.path = dir.join ⟨name⟩

/-- **What is done at some names is nothing to the others.** -/
theorem agreeOn_touchAll {touches : List Touch} (hs : Settled dir fs)
    (htouches : TouchesIn dir own touches) (hother : ∀ name ∈ own, name ∉ names) :
    AgreeOn dir names fs (fs.touchAll touches) := by
  induction touches generalizing fs with
  | nil => exact .refl hs
  | cons t touches ih =>
    obtain ⟨⟨name, hown, hname, hpath⟩, hrest⟩ := List.forall_mem_cons.1 htouches
    obtain ⟨path, content⟩ := t
    subst hpath
    have hfirst := agreeOn_touch hs hname (hother name hown) content
    exact hfirst.trans (ih hfirst.settled' hrest)

/-- **A tool cannot tell file systems apart that agree on the names it touches.** -/
theorem AgreeOn.touchAll {touches : List Touch} (h : AgreeOn dir names fs fs')
    (htouches : TouchesIn dir names touches) :
    AgreeOn dir names (fs.touchAll touches) (fs'.touchAll touches) := by
  induction touches generalizing fs fs' with
  | nil => exact h
  | cons t touches ih =>
    obtain ⟨⟨name, hmem, hname, hpath⟩, hrest⟩ := List.forall_mem_cons.1 htouches
    obtain ⟨path, content⟩ := t
    subst hpath
    exact ih (h.touch hname hmem content) hrest

end FileSystem

/-! ## Confined runners -/

namespace ToolRunner

variable {σ : Type} {runner : ToolRunner σ} {c : Command} {paths : List Path}

/-- The answer to a command depends on nothing else, and neither does what is done to files, which
is something at the given paths. What the runner remembers is left open. -/
def Confined (runner : ToolRunner σ) (c : Command) (paths : List Path) : Prop :=
  ∃ (answer : Except BuildError ToolOutput) (touches : List Touch),
    (∀ t ∈ touches, t.path ∈ paths) ∧
    ∀ memory files, ∃ memory',
      runner.run c memory files = (answer, memory', files.touchAll touches)

theorem Confined.call (h : runner.Confined c paths) :
    ∃ (answer : Except BuildError ToolOutput) (touches : List Touch),
      (∀ t ∈ touches, t.path ∈ paths) ∧
      ∀ w : Workshop σ, (w.call runner c).1 = answer ∧
        (w.call runner c).2.files = w.files.touchAll touches := by
  obtain ⟨answer, touches, hpaths, hrun⟩ := h
  refine ⟨answer, touches, hpaths, fun w => ?_⟩
  obtain ⟨memory', hw⟩ := hrun w.memory w.files
  simp only [Workshop.call, hw, and_self]

/-- The runner that does what a script says. -/
def scripted (script : Command → Except BuildError ToolOutput × List Touch) : ToolRunner Unit where
  run c memory files := ((script c).1, memory, files.touchAll (script c).2)

theorem confined_scripted {script : Command → Except BuildError ToolOutput × List Touch}
    (h : ∀ t ∈ (script c).2, t.path ∈ paths) : (scripted script).Confined c paths :=
  ⟨_, _, h, fun memory _ => ⟨memory, rfl⟩⟩

/-- Whatever is there, the command leaves what is at the place of a path as it is, and the
directory that relative paths start from. -/
def Spares (runner : ToolRunner σ) (c : Command) (p : Path) : Prop :=
  ∀ memory files, FileSystem.SameAt p files (runner.run c memory files).2.2

theorem Spares.call {p : Path} (h : runner.Spares c p) (w : Workshop σ) :
    FileSystem.SameAt p w.files (w.call runner c).2.files := h w.memory w.files

end ToolRunner

end Clinker

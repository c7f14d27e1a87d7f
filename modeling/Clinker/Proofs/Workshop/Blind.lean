import Clinker.Proofs.FileSystem.Leftovers
import Clinker.Proofs.Workshop.Confined

/-!
# Tools that do not look at files

A runner is blind on a command when what it answers and what it does to files do not depend on what
is in the files (`Blind`): in file systems that agree off some locations it does the same and
leaves file systems that agree as before. A runner that does what a script says is blind
(`blind_scripted`), because a touch at a path happens where the path leads somewhere, whatever is in
the file there (`AgreeOff.touch`).
-/

namespace Clinker

open Clinker.Path (IsName)
open FileSystem (AgreeOff)

namespace FileSystem

variable {fs fs' : FileSystem} {hidden : Set Location} {dir : Path} {name : String}

/-- A path that can name no file is not touched. -/
theorem touch_of_not_file {t : Touch}
    (h : ¬ (endsInName t.path = true ∧ t.path.endsInSeparator = false)) (fs : FileSystem) :
    fs.touch t = fs := by
  obtain ⟨path, content⟩ := t
  unfold touch
  cases content with
  | none =>
    simp only
    cases hremove : fs.removeFileIfExists path {} with
    | error e => rfl
    | ok left =>
      obtain ⟨rfl, -⟩ | ⟨_, _, hname, hsep, -⟩ := removeFileIfExists_eq_ok hremove
      · rfl
      · exact absurd ⟨hname, hsep⟩ h
  | some content =>
    simp only
    obtain ⟨e, hwrite⟩ | ⟨_, _, -, hname, hsep, -⟩ := writeBytes_cases fs path content {}
    · rw [hwrite]
    · exact absurd ⟨hname, hsep⟩ h

/-- A path that leads nowhere is not touched. -/
theorem touch_of_nowhere (hname : IsName name) {e : SystemError}
    (h : fs.locate (dir.join ⟨name⟩) = .error e) (content : Option ByteArray) :
    fs.touch ⟨dir.join ⟨name⟩, content⟩ = fs := by
  rw [touch_join hname, revise_of_nowhere h]

theorem current_touch (fs : FileSystem) (t : Touch) : (fs.touch t).current = fs.current := by
  by_cases hfile : endsInName t.path = true ∧ t.path.endsInSeparator = false
  · obtain ⟨path, content⟩ := t
    obtain ⟨dir, name, hname, rfl⟩ := exists_join_of_endsInName hfile.1 hfile.2
    rw [touch_join hname]
    exact (keeps_revise fs _ _).current
  · rw [touch_of_not_file hfile]

/-- Nothing is refused for a tool that would not be refused for all files alike. -/
theorem Operation.steady_touching (content : Option ByteArray) (loc : Location) :
    (Operation.touching content).Steady loc := by
  cases content with
  | none =>
    show (Operation.removing {}).Steady loc
    exact steady_removing rfl
  | some content =>
    show (Operation.writing content {}).Steady loc
    exact steady_writing rfl content

/-- **A touch happens in both file systems or in none.** -/
theorem AgreeOff.touch (h : AgreeOff hidden fs fs') (t : Touch) :
    AgreeOff hidden (fs.touch t) (fs'.touch t) := by
  by_cases hfile : endsInName t.path = true ∧ t.path.endsInSeparator = false
  · obtain ⟨path, content⟩ := t
    obtain ⟨dir, name, hname, rfl⟩ := exists_join_of_endsInName hfile.1 hfile.2
    cases hloc : fs.locate (dir.join ⟨name⟩) with
    | ok loc =>
      rw [touch_join hname, touch_join hname]
      exact (h.revise_of_locate hloc (h.keeps.locate hloc)
        fun _ => Operation.steady_touching content loc).2
    | error e =>
      -- The path may lead nowhere for another reason in the other file system.
      obtain ⟨e', hloc'⟩ : ∃ e', fs'.locate (dir.join ⟨name⟩) = .error e' := by
        cases hloc' : fs'.locate (dir.join ⟨name⟩) with
        | error e' => exact ⟨e', rfl⟩
        | ok loc =>
          rw [h.symm.keeps.locate hloc'] at hloc
          cases hloc
      rw [touch_of_nowhere hname hloc, touch_of_nowhere hname hloc']
      exact h
  · rw [touch_of_not_file hfile, touch_of_not_file hfile]
    exact h

theorem touchAll_alike (touches : List Touch) (h : AgreeOff hidden fs fs') :
    (fs.touchAll touches).current = fs.current ∧
      AgreeOff hidden (fs.touchAll touches) (fs'.touchAll touches) := by
  induction touches generalizing fs fs' with
  | nil => exact ⟨rfl, h⟩
  | cons t touches ih =>
    obtain ⟨hcurrent, hagree⟩ := ih (h.touch t)
    exact ⟨hcurrent.trans (current_touch fs t), hagree⟩

end FileSystem

/-! ## Blind runners -/

namespace ToolRunner

variable {σ : Type} {runner : ToolRunner σ} {c : Command}

/-- What the runner answers to a command and what it remembers do not depend on files. What it does
to files does not depend on what is in them: file systems that agree off some locations agree off
them afterwards. The directory that relative paths start from stays. -/
def Blind (runner : ToolRunner σ) (c : Command) : Prop :=
  ∀ memory hidden files files', AgreeOff hidden files files' →
    (runner.run c memory files').1 = (runner.run c memory files).1 ∧
    (runner.run c memory files').2.1 = (runner.run c memory files).2.1 ∧
    (runner.run c memory files).2.2.current = files.current ∧
    AgreeOff hidden (runner.run c memory files).2.2 (runner.run c memory files').2.2

/-- **A runner that follows a script is blind.** -/
theorem blind_scripted (script : Command → Except BuildError ToolOutput × List Touch)
    (c : Command) : (scripted script).Blind c := by
  intro memory hidden files files' h
  obtain ⟨hcurrent, hagree⟩ := FileSystem.touchAll_alike (script c).2 h
  exact ⟨rfl, rfl, hcurrent, hagree⟩

end ToolRunner

end Clinker

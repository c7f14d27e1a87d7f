import Clinker.Configuration.Reader
import Clinker.Proofs.FileSystem.Writing

/-!
# Configurations as a monoid

Merging is associative, and the configuration that sets nothing is neutral on both sides. There are
four rules for what two values of a key become: the last one that is set, the last list that has
items, both lists together, and a switch that is on if one of them is. Each of these is associative
with the default as its neutral value, and so merging is, key by key.

A configuration file that cannot be used contributes the neutral configuration, so what applies is
what the other file says, or the default if neither can be used (`loadBoth_of_unusable`). Which files
cannot be used is said from what is found under the path (`Unusable`).
-/

namespace Clinker.Configuration

/-! ## Merging -/

theorem overridden_assoc {α : Type} (a b c : List α) :
    overridden (overridden a b) c = overridden a (overridden b c) := by
  cases c with
  | nil => rw [overridden_nil, overridden_nil]
  | cons x c => rfl

theorem merge_assoc (a b c : Configuration) :
    (a.merge b).merge c = a.merge (b.merge c) := by
  simp only [merge, Option.orElse_eq_orElse, Option.orElse_eq_or, Option.or_assoc, overridden_assoc,
    List.append_assoc, Bool.or_assoc]

theorem merge_default (a : Configuration) : a.merge {} = a := by
  simp [merge]

theorem default_merge (a : Configuration) : ({} : Configuration).merge a = a := by
  simp [merge]

/-! ## Files that cannot be used -/

section Files

variable {fs : FileSystem} {p : Path}

/-- What is found under the path is no configuration file: there is nothing, or a directory, or a
file that is no text, or a text that describes no configuration. -/
inductive Unusable (fs : FileSystem) (p : Path) : Prop
  | absent : fs.stat? p = none → Unusable fs p
  | directory : fs.stat? p = some .directory → Unusable fs p
  | notText {content : ByteArray} {executable : Bool} :
      fs.stat? p = some (.file content executable) → String.fromUTF8? content = none →
      Unusable fs p
  | malformed {content : ByteArray} {executable : Bool} {text : String} :
      fs.stat? p = some (.file content executable) → String.fromUTF8? content = some text →
      ofText? text = none → Unusable fs p

/-- **A configuration is loaded from a file that holds the text of one**, and only from such. -/
theorem load_eq_ok_iff {c : Configuration} : load fs p = .ok c ↔
    ∃ content executable text, fs.stat? p = some (.file content executable) ∧
      String.fromUTF8? content = some text ∧ ofText? text = some c := by
  unfold load
  constructor
  · intro h
    cases hread : fs.readText p with
    | error cause => simp [hread] at h
    | ok text =>
      obtain ⟨content, executable, hstat, htext⟩ := FileSystem.readText_eq_ok_iff.1 hread
      refine ⟨content, executable, text, hstat, htext, ?_⟩
      cases hc : ofText? text with
      | none => simp [hread, hc] at h
      | some found => simpa [hread, hc] using h
  · rintro ⟨content, executable, text, hstat, htext, hc⟩
    have hread : fs.readText p = .ok text :=
      FileSystem.readText_eq_ok_iff.2 ⟨content, executable, hstat, htext⟩
    simp [hread, hc]

/-- These are all the files from which nothing is loaded. -/
theorem unusable_iff : Unusable fs p ↔ ∀ c, load fs p ≠ .ok c := by
  simp only [ne_eq, load_eq_ok_iff]
  constructor
  · rintro h c ⟨content, executable, text, hstat, htext, hc⟩
    cases h with
    | absent h => simp [hstat] at h
    | directory h => simp [hstat] at h
    | notText h hnone =>
      rw [hstat, Option.some.injEq, Entry.file.injEq] at h
      rw [← h.1, htext] at hnone
      cases hnone
    | malformed h htext' hnone =>
      rw [hstat, Option.some.injEq, Entry.file.injEq] at h
      rw [← h.1, htext, Option.some.injEq] at htext'
      rw [← htext', hc] at hnone
      cases hnone
  · intro hnever
    rcases hstat : fs.stat? p with _ | _ | ⟨content, executable⟩
    · exact .absent hstat
    · exact .directory hstat
    · cases htext : String.fromUTF8? content with
      | none => exact .notText hstat htext
      | some text =>
        cases hc : ofText? text with
        | none => exact .malformed hstat htext hc
        | some c => exact absurd ⟨content, executable, text, hstat, htext, hc⟩ (hnever c)

/-- **A file that cannot be used contributes what is neutral.** -/
theorem contributionOf_of_unusable (h : Unusable fs p) : contributionOf fs p = {} := by
  unfold contributionOf
  cases hload : load fs p with
  | error e => rfl
  | ok c => exact absurd hload (unusable_iff.1 h c)

theorem contributionOf_of_load {c : Configuration} (h : load fs p = .ok c) :
    contributionOf fs p = c := by
  simp [contributionOf, h]

end Files

/-- **Configurations are a monoid, and a file that cannot be used is as good as none.** Merging is
associative, and what sets nothing is neutral on both sides. So with one file that cannot be used the
configuration is that of the other file alone: what is loaded from it, if it can be used. -/
theorem loadBoth_of_unusable (fs : FileSystem) (user project : Path) :
    (∀ a b c : Configuration, (a.merge b).merge c = a.merge (b.merge c)) ∧
    (∀ a : Configuration, a.merge {} = a ∧ ({} : Configuration).merge a = a) ∧
    (Unusable fs project → loadBoth fs user project = contributionOf fs user ∧
      ∀ c, load fs user = .ok c → loadBoth fs user project = c) ∧
    (Unusable fs user → loadBoth fs user project = contributionOf fs project ∧
      ∀ c, load fs project = .ok c → loadBoth fs user project = c) := by
  refine ⟨merge_assoc, fun a => ⟨merge_default a, default_merge a⟩, ?_, ?_⟩
  · intro h
    have halone : loadBoth fs user project = contributionOf fs user := by
      rw [loadBoth, contributionOf_of_unusable h, merge_default]
    exact ⟨halone, fun c hc => halone.trans (contributionOf_of_load hc)⟩
  · intro h
    have halone : loadBoth fs user project = contributionOf fs project := by
      rw [loadBoth, contributionOf_of_unusable h, default_merge]
    exact ⟨halone, fun c hc => halone.trans (contributionOf_of_load hc)⟩

def fourJobs : String := "[build]\njobs = 4\n"

/-- A directory stands where the project's file would be. -/
def directoryForFile : FileSystem :=
  ⟨[(["user.toml"], .file fourJobs.toUTF8 false), (["project.toml"], .directory)], []⟩

/-- The directory does not change what the user has set. -/
theorem loadBoth_directoryForFile :
    Unusable directoryForFile ⟨"project.toml"⟩ ∧
    load directoryForFile ⟨"user.toml"⟩ = .ok { build := { jobs := some 4 } } ∧
    loadBoth directoryForFile ⟨"user.toml"⟩ ⟨"project.toml"⟩ = { build := { jobs := some 4 } } := by
  have hproject : Unusable directoryForFile ⟨"project.toml"⟩ := .directory (by rfl)
  have huser : load directoryForFile ⟨"user.toml"⟩ = .ok { build := { jobs := some 4 } } :=
    load_eq_ok_iff.2 ⟨fourJobs.toUTF8, false, fourJobs, by rfl, by decide +kernel,
      by decide +kernel⟩
  exact ⟨hproject, huser, ((loadBoth_of_unusable _ _ _).2.2.1 hproject).2 _ huser⟩

end Clinker.Configuration

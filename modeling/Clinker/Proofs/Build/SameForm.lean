import Clinker.Proofs.Build.Collisions
import Clinker.Proofs.Dependency.InFolder

/-!
# Objects of one form

The objects of a plan are compared as they are written. Windows does not distinguish the case of
names, for which headers are compared by their forms (`normalForm`). So a plan may be accepted
although two of its jobs write the same file (`compileJobs_capitalPlan`). The objects of an accepted
plan have pairwise distinct forms exactly if their names have, in the form of a name in the folder
of the plan (`compileJobs_apart_iff`).

The form of an object is that of the folder, which all objects of a plan share, continued with the
form of the name (`exists_normalForm_objectOf`).
-/

namespace Clinker.Build

open Dependency (IsClosed forwardSeparators normalForm toList_normalForm)

/-! ## The form of an object -/

/-- The form of a name in a folder: letters in lower case and `/` for every separator. White space
in front of it is dropped if no folder is written there. -/
def nameForm (dir : Path) : String → String :=
  Text.onChars fun cs =>
    Text.lowerChars (forwardSeparators (if dir.isEmpty then Text.trimStartChars cs else cs))

theorem isClosed_objectName (source : Path) : IsClosed (objectName source).toList := by
  have hext : ∀ kind : SourceKind, IsClosed kind.objectExtension.toList := by
    rintro (_ | _ | _)
    · exact ⟨['r', 'e'], 's', by decide⟩
    · exact ⟨['t', 'l'], 'b', by decide⟩
    · exact ⟨['o', 'b'], 'j', by decide⟩
  rw [objectName, String.toList_append]
  exact (hext _).append_left _

namespace Plan

theorem toList_objectOf (plan : Plan) (source : Path) :
    (plan.objectOf source).text.toList = plan.outDir.opening ++ (objectName source).toList := by
  rw [objectOf_eq_join, Path.toList_join (Compile.isName_outputName _), outputName_jobFor]

/-- **The forms of all objects of a plan** begin with the same text, and end in the forms of their
names. -/
theorem exists_normalForm_objectOf (plan : Plan) : ∃ folder : List Char, ∀ source,
    (normalForm (plan.objectOf source).text).toList =
      folder ++ (nameForm plan.outDir (objectName source)).toList := by
  obtain ⟨hempty, hopening⟩ | ⟨cs, hopening, -, -⟩ := plan.outDir.opening_cases
  · refine ⟨[], fun source => ?_⟩
    rw [toList_normalForm, toList_objectOf, hopening, List.nil_append,
      (isClosed_objectName source).normalChars_eq]
    simp [nameForm, Path.isEmpty, hempty]
  · have hwritten : plan.outDir.isEmpty = false := by
      rw [Bool.eq_false_iff]
      intro hempty
      have hnil : plan.outDir.opening = [] := by
        rw [Path.opening, hempty, Bool.true_or, if_pos rfl, String.isEmpty_iff.1 hempty]
        rfl
      rw [hnil] at hopening
      exact List.append_ne_nil_of_right_ne_nil cs (List.cons_ne_nil _ _) hopening.symm
    refine ⟨Text.lowerChars (forwardSeparators (Text.trimStartChars cs)) ++ ['/'], fun source => ?_⟩
    rw [toList_normalForm, toList_objectOf, hopening, List.append_assoc, List.singleton_append,
      (isClosed_objectName source).normalChars_append_slash]
    simp [nameForm, hwritten]

/-- Objects have one form exactly if their names have. -/
theorem normalForm_objectOf_inj (plan : Plan) (a b : Path) :
    normalForm (plan.objectOf a).text = normalForm (plan.objectOf b).text ↔
      nameForm plan.outDir (objectName a) = nameForm plan.outDir (objectName b) := by
  obtain ⟨folder, hfolder⟩ := plan.exists_normalForm_objectOf
  rw [← String.toList_inj, hfolder, hfolder, List.append_right_inj, String.toList_inj]

theorem nodup_normalForm_iff (plan : Plan) (sources : List Path) :
    ((sources.map plan.jobFor).map fun job => normalForm job.object.text).Nodup ↔
      (sources.map fun source => nameForm plan.outDir (objectName source)).Nodup := by
  have hobject : ∀ source, (plan.jobFor source).object = plan.objectOf source := by
    intro source
    rw [jobFor]
  simp only [List.map_map, Function.comp_def, hobject, List.Nodup, List.pairwise_map, ne_eq,
    normalForm_objectOf_inj]

/-- **A plan is accepted, with objects that Windows keeps apart, exactly if the forms of their names
are pairwise distinct.** -/
theorem compileJobs_apart_iff (plan : Plan) :
    (∃ jobs, plan.compileJobs = .ok jobs ∧
      (jobs.map fun job => normalForm job.object.text).Nodup) ↔
      (plan.sources.map fun source => nameForm plan.outDir (objectName source)).Nodup := by
  constructor
  · rintro ⟨jobs, hjobs, hforms⟩
    obtain ⟨rfl, -, -⟩ := jobsAfter_eq_ok hjobs
    exact (plan.nodup_normalForm_iff _).1 hforms
  · intro hforms
    have hnames : (plan.sources.map objectName).Nodup := by
      apply List.Nodup.of_map (nameForm plan.outDir)
      rwa [List.map_map]
    obtain ⟨jobs, hjobs⟩ := exists_compileJobs_iff.2 hnames
    obtain ⟨rfl, -, -⟩ := jobsAfter_eq_ok hjobs
    exact ⟨_, hjobs, (plan.nodup_normalForm_iff _).2 hforms⟩

/-- Two sources whose names differ in the case of a letter. -/
def capitalPlan : Plan :=
  { sources := [⟨"A.cpp"⟩, ⟨"a.cpp"⟩]
    outDir := ⟨"build"⟩
    macros := []
    includeDirs := []
    runtime := .dynamic
    target := ⟨"app.exe"⟩
    options := ⟨.executable, .console, [], none⟩
    libDirs := []
    libs := []
    extraLinkArgs := [] }

/-- The plan is accepted, and its two objects have one form. -/
theorem compileJobs_capitalPlan : ∃ jobs, capitalPlan.compileJobs = .ok jobs ∧
    ¬ (jobs.map fun job => normalForm job.object.text).Nodup :=
  ⟨capitalPlan.sources.map capitalPlan.jobFor, by decide +kernel, by decide +kernel⟩

end Plan

end Clinker.Build

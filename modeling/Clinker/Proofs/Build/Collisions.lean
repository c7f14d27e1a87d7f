import Clinker.Proofs.Build.Outputs
import Mathlib.Data.List.Nodup

/-!
# Collisions of outputs

Only objects are compared when a plan is looked through. That is enough: a plan is accepted exactly
if the names of its objects are pairwise distinct, and then all outputs of all its jobs are pairwise
distinct paths in the folder of the plan (`Accepted`). If a name repeats, the error tells the first
source where one does, and the earlier source that has it (`Refused`). `compileJobs_distinct`
states all of this.

The sources are looked through in order, with those before them at hand (`jobsAfter`). Going
through the rest keeps that the names of the sources before are pairwise distinct, so the first
repetition ends it (`jobsAfter_eq_error`).
-/

namespace Clinker.Build

open Clinker.Path (IsName)
open Compile (OutputsIn outputName outputNames)

variable {plan : Plan} {jobs : List CompileJob} {earlier sources : List Path} {e : BuildError}

/-- The name of the object of a source: its stem and the extension of its kind. -/
def objectName (source : Path) : String :=
  source.stem?.getD "" ++ "." ++ (SourceKind.ofPath source).objectExtension

theorem Plan.source_jobFor (plan : Plan) (source : Path) :
    (plan.jobFor source).source = source := by
  rw [jobFor]

theorem Plan.outputName_jobFor (plan : Plan) (source : Path) :
    outputName (plan.jobFor source) = objectName source := by
  rw [outputName, objectName, CompileJob.kind, source_jobFor]

/-- What a compile leaves: the object, the dependency file and the report. -/
def outputs (job : CompileJob) : List Path := [job.object, job.depFile, job.report]

/-- The jobs of a plan of which no two outputs collide. -/
structure Accepted (plan : Plan) (jobs : List CompileJob) : Prop where
  sources : jobs.map (·.source) = plan.sources
  directly : ∀ job ∈ jobs,
    job.object.components = plan.outDir.components ++ [.name (objectName job.source)]
  distinct : (jobs.flatMap outputs).Pairwise fun a b => a.same b = false

/-- The error of a plan in which the name of an object repeats: `source` is the first source whose
object has the name of an earlier one, and `previous` is that one. -/
inductive Refused (plan : Plan) : BuildError → Prop
  | mk {before after : List Path} {previous source : Path} :
      plan.sources = before ++ source :: after → (before.map objectName).Nodup →
      previous ∈ before → objectName previous = objectName source →
      Refused plan (.badConfiguration
        s!"{previous.text} and {source.text} would both compile to {(plan.objectOf source).text}")

/-! ## Outputs as names in a folder -/

theorem isName_of_mem_outputNames {job : CompileJob} {name : String}
    (h : name ∈ outputNames job) : IsName name := by
  simp only [outputNames, List.mem_cons, List.not_mem_nil, or_false] at h
  obtain rfl | rfl | rfl := h
  · exact Compile.isName_outputName job
  · exact Compile.isName_depFile job
  · exact Compile.isName_report job

theorem outputs_eq_map {dir : Path} {job : CompileJob} (h : OutputsIn dir job) :
    outputs job = (outputNames job).map fun name => dir.join ⟨name⟩ := by
  simp only [outputs, outputNames, h.object, h.depFile, h.report, List.map_cons, List.map_nil]

theorem nodup_outputNames (job : CompileJob) : (outputNames job).Nodup := by
  have hsuffix : ∀ name suffix : String, suffix ≠ "" → name ≠ name ++ suffix := by
    intro name suffix hne heq
    exact hne (by simpa using heq.symm)
  have hdep := hsuffix (outputName job) ".d" (by decide)
  have hreport := hsuffix (outputName job) (".d" ++ ".json") (by decide)
  have hboth := hsuffix (outputName job ++ ".d") ".json" (by decide)
  rw [← String.append_assoc] at hreport
  simp [outputNames, hdep, hreport, hboth]

/-- **The outputs of jobs with different objects are different paths**, also those of one job. -/
theorem pairwise_outputs {dir : Path} (hin : ∀ job ∈ jobs, OutputsIn dir job)
    (hnames : (jobs.map outputName).Nodup) :
    (jobs.flatMap outputs).Pairwise fun a b => a.same b = false := by
  have houtputs : jobs.flatMap outputs =
      (jobs.flatMap outputNames).map fun name => dir.join ⟨name⟩ := by
    rw [List.map_flatMap]
    exact List.flatMap_congr fun job hjob => outputs_eq_map (hin job hjob)
  have hnodup : (jobs.flatMap outputNames).Nodup := by
    refine List.nodup_flatMap.2 ⟨fun job _ => nodup_outputNames job, ?_⟩
    refine (List.pairwise_map.1 hnames).imp fun hne name h h' => ?_
    exact outputNames_disjoint hne name h h'
  rw [houtputs, List.pairwise_map]
  refine hnodup.imp_of_mem fun {a b} ha hb hne => ?_
  obtain ⟨job, -, ha⟩ := List.mem_flatMap.1 ha
  obtain ⟨other, -, hb⟩ := List.mem_flatMap.1 hb
  rw [← Bool.not_eq_true, Path.same_join_iff (isName_of_mem_outputNames ha)
    (isName_of_mem_outputNames hb)]
  exact hne

namespace Plan

/-! ## Looking through the sources -/

/-- Objects are the same path exactly if their names are the same. -/
theorem same_objectOf_iff (plan : Plan) (a b : Path) :
    (plan.objectOf a).same (plan.objectOf b) = true ↔ objectName a = objectName b := by
  rw [objectOf_eq_join, objectOf_eq_join,
    Path.same_join_iff (Compile.isName_outputName _) (Compile.isName_outputName _),
    outputName_jobFor, outputName_jobFor]

/-- **A plan that is refused has a first source whose object has the name of an earlier one.** -/
theorem jobsAfter_eq_error (h : plan.jobsAfter earlier sources = .error e)
    (hearlier : (earlier.map objectName).Nodup) : ∃ before after previous source,
      sources = before ++ source :: after ∧ ((earlier ++ before).map objectName).Nodup ∧
      previous ∈ earlier ++ before ∧ objectName previous = objectName source ∧
      e = collision previous source (plan.objectOf source) := by
  induction sources generalizing earlier with
  | nil => cases h
  | cons source rest ih =>
    rw [jobsAfter] at h
    split at h
    · next previous hfind =>
      have hsame := List.find?_some
        (p := fun a => (plan.objectOf a).same (plan.objectOf source)) hfind
      refine ⟨[], rest, previous, source, rfl, by rwa [List.append_nil], ?_, ?_, ?_⟩
      · rw [List.append_nil]
        exact List.mem_of_find?_eq_some hfind
      · exact (plan.same_objectOf_iff previous source).1 hsame
      · exact (Except.error.inj h).symm
    · next hfind =>
      have hnew : ∀ a ∈ earlier, objectName a ≠ objectName source := by
        intro a ha heq
        exact List.find?_eq_none.1 hfind a ha ((plan.same_objectOf_iff a source).2 heq)
      have hmore : ((earlier ++ [source]).map objectName).Nodup := by
        rw [List.map_append, List.nodup_append]
        refine ⟨hearlier, List.nodup_singleton _, ?_⟩
        simpa using hnew
      cases hrest : plan.jobsAfter (earlier ++ [source]) rest with
      | ok more => simp [hrest, bind, Except.bind, pure, Except.pure] at h
      | error other =>
        simp only [hrest, bind, Except.bind, Except.error.injEq] at h
        rw [h] at hrest
        obtain ⟨before, after, previous, repeated, rfl, hnodup, hmem, heq, he⟩ := ih hrest hmore
        rw [List.append_assoc, List.singleton_append] at hnodup hmem
        exact ⟨source :: before, after, previous, repeated, rfl, hnodup, hmem, heq, he⟩

theorem nodup_objectName_of_compileJobs (h : plan.compileJobs = .ok jobs) :
    (plan.sources.map objectName).Nodup := by
  obtain ⟨-, -, hpairs⟩ := jobsAfter_eq_ok h
  refine List.pairwise_map.2 (hpairs.imp fun {a b} hne heq => hne ?_)
  rw [objectOf_eq_join, objectOf_eq_join, outputName_jobFor, outputName_jobFor, heq]

theorem accepted_of_compileJobs (h : plan.compileJobs = .ok jobs) : Accepted plan jobs := by
  have hnames := nodup_objectName_of_compileJobs h
  have hin := outputsIn_of_compileJobs h
  obtain ⟨rfl, -, -⟩ := jobsAfter_eq_ok h
  refine ⟨?_, ?_, pairwise_outputs hin ?_⟩
  · simp only [List.map_map, Function.comp_def, source_jobFor, List.map_id']
  · intro job hjob
    obtain ⟨source, -, rfl⟩ := List.mem_map.1 hjob
    rw [object_jobFor, Path.components_join (Compile.isName_outputName _), outputName_jobFor,
      source_jobFor]
  · simpa only [List.map_map, Function.comp_def, outputName_jobFor] using hnames

theorem refused_of_compileJobs (h : plan.compileJobs = .error e) : Refused plan e := by
  obtain ⟨before, after, previous, source, hsources, hnodup, hmem, heq, rfl⟩ :=
    jobsAfter_eq_error h List.nodup_nil
  exact .mk hsources hnodup hmem heq

/-- A refused plan has a name twice. -/
theorem not_nodup_of_refused (h : Refused plan e) : ¬ (plan.sources.map objectName).Nodup := by
  obtain ⟨hsources, -, hmem, heq⟩ := h
  intro hnodup
  rw [hsources, List.map_append, List.map_cons] at hnodup
  refine (List.nodup_append.1 hnodup).2.2 _ (List.mem_map_of_mem hmem) _ ?_ heq
  exact List.mem_cons_self

theorem exists_compileJobs_iff :
    (∃ jobs, plan.compileJobs = .ok jobs) ↔ (plan.sources.map objectName).Nodup := by
  constructor
  · rintro ⟨jobs, hjobs⟩
    exact nodup_objectName_of_compileJobs hjobs
  · intro hnodup
    cases h : plan.compileJobs with
    | ok jobs => exact ⟨jobs, rfl⟩
    | error e => exact absurd hnodup (not_nodup_of_refused (refused_of_compileJobs h))

/-- **A plan is accepted exactly if the names of its objects are pairwise distinct.** Then it has
one job per source, in order, with its object directly in the folder of the plan, and no two outputs
of the jobs are the same path. Otherwise the error tells the first source whose object repeats an
earlier one. -/
theorem compileJobs_distinct (plan : Plan) :
    ((∃ jobs, plan.compileJobs = .ok jobs) ↔ (plan.sources.map objectName).Nodup) ∧
    (∀ jobs, plan.compileJobs = .ok jobs → Accepted plan jobs) ∧
    (∀ e, plan.compileJobs = .error e → Refused plan e) :=
  ⟨exists_compileJobs_iff, fun _ => accepted_of_compileJobs, fun _ => refused_of_compileJobs⟩

end Plan

end Clinker.Build

import Clinker.Build
import Clinker.Proofs.Compile.Isolation

/-!
# The outputs of a plan

A plan is accepted when no two of its sources have the same object. Then there is one job per
source, the outputs of all jobs lie in the folder of the plan (`outputsIn_of_compileJobs`), and no
two jobs have an output or a source in common (`apart_of_compileJobs`): an object, a dependency
file and a report end in different characters, and without its ending each of them names the
object.
-/

namespace Clinker.Build

open Compile (Apart OutputsIn outputName outputNames)

variable {plan : Plan} {jobs : List CompileJob}

namespace Plan

/-! ## Jobs of a plan -/

theorem objectOf_eq_join (plan : Plan) (source : Path) : plan.objectOf source =
    plan.outDir.join ⟨outputName (plan.jobFor source)⟩ := by
  simp only [objectOf, objectPath, outputName, CompileJob.kind, jobFor]

theorem object_jobFor (plan : Plan) (source : Path) : (plan.jobFor source).object =
    plan.outDir.join ⟨outputName (plan.jobFor source)⟩ := by
  rw [← objectOf_eq_join, jobFor]

theorem depFile_jobFor (plan : Plan) (source : Path) : (plan.jobFor source).depFile =
    plan.outDir.join ⟨outputName (plan.jobFor source) ++ ".d"⟩ := by
  have hdep : (plan.jobFor source).depFile = (plan.jobFor source).object.suffixed ".d" := by
    simp only [jobFor, depFile]
  rw [hdep, object_jobFor, Path.suffixed_join (Compile.isName_outputName _)
    (Compile.isName_depFile _)]

theorem outputsIn_jobFor (plan : Plan) (source : Path) :
    OutputsIn plan.outDir (plan.jobFor source) :=
  ⟨plan.object_jobFor source, plan.depFile_jobFor source⟩

/-- **An accepted plan has one job per source**, and each object is that of one of them. -/
theorem jobsAfter_eq_ok {earlier sources : List Path}
    (h : plan.jobsAfter earlier sources = .ok jobs) : jobs = sources.map plan.jobFor ∧
      (∀ e ∈ earlier, ∀ source ∈ sources, plan.objectOf e ≠ plan.objectOf source) ∧
      sources.Pairwise fun a b => plan.objectOf a ≠ plan.objectOf b := by
  induction sources generalizing earlier jobs with
  | nil =>
    cases h
    exact ⟨rfl, by simp, .nil⟩
  | cons source rest ih =>
    rw [jobsAfter] at h
    split at h
    · cases h
    · next hfind =>
      cases hrest : plan.jobsAfter (earlier ++ [source]) rest with
      | error e => simp [hrest, bind, Except.bind] at h
      | ok more =>
        simp only [hrest, bind, Except.bind, pure, Except.pure, Except.ok.injEq] at h
        obtain ⟨rfl, hearlier, hpairs⟩ := ih hrest
        have hnew : ∀ e ∈ earlier, plan.objectOf e ≠ plan.objectOf source := by
          intro e he heq
          refine List.find?_eq_none.1 hfind e he ?_
          simp [heq, Path.same]
        refine ⟨h.symm, ?_, List.pairwise_cons.2 ⟨fun b hb => ?_, hpairs⟩⟩
        · intro e he b hb
          obtain rfl | hb := List.mem_cons.1 hb
          · exact hnew e he
          · exact hearlier e (List.mem_append_left _ he) b hb
        · exact hearlier source (by simp) b hb

theorem outputsIn_of_compileJobs (h : plan.compileJobs = .ok jobs) :
    ∀ job ∈ jobs, OutputsIn plan.outDir job := by
  obtain ⟨rfl, -, -⟩ := jobsAfter_eq_ok h
  intro job hjob
  obtain ⟨source, -, rfl⟩ := List.mem_map.1 hjob
  exact plan.outputsIn_jobFor source

end Plan

/-! ## Outputs of different objects -/

theorem getLast?_outputName (job : CompileJob) :
    (outputName job).toList.getLast? ≠ some 'd' ∧ (outputName job).toList.getLast? ≠ some 'n' := by
  rw [outputName, String.toList_append, List.getLast?_append]
  cases job.kind <;> simp [SourceKind.objectExtension]

/-- **Different objects have different dependency files and reports**, and none of these is an
object or the other one. -/
theorem outputNames_disjoint {job other : CompileJob} (h : outputName job ≠ outputName other) :
    ∀ output ∈ outputNames job, output ∉ outputNames other := by
  have hdep : ∀ name : String, (name ++ ".d").toList.getLast? = some 'd' :=
    fun name => by rw [String.toList_append, List.getLast?_append]; rfl
  have hreport : ∀ name : String, (name ++ ".json").toList.getLast? = some 'n' :=
    fun name => by rw [String.toList_append, List.getLast?_append]; rfl
  have hjob := getLast?_outputName job
  have hother := getLast?_outputName other
  intro output hmem hmem'
  simp only [outputNames, List.mem_cons, List.not_mem_nil, or_false] at hmem hmem'
  obtain rfl | rfl | rfl := hmem <;> obtain heq | heq | heq := hmem'
  · exact h heq
  · exact hjob.1 (heq ▸ hdep _)
  · exact hjob.2 (heq ▸ hreport _)
  · exact hother.1 (heq ▸ hdep _)
  · exact h (by simpa using heq)
  · exact absurd ((hdep _).symm.trans (heq ▸ hreport _)) (by decide)
  · exact hother.2 (heq ▸ hreport _)
  · exact absurd ((hdep _).symm.trans (heq ▸ hreport _)) (by decide)
  · exact h (by simpa using heq)

/-- **No two jobs of a plan have an output or a source in common.** -/
theorem Plan.apart_of_compileJobs (h : plan.compileJobs = .ok jobs) :
    jobs.Pairwise fun a b => Apart a (outputNames b) b.source.text ∧
      Apart b (outputNames a) a.source.text := by
  obtain ⟨rfl, -, hpairs⟩ := jobsAfter_eq_ok h
  refine List.pairwise_map.2 (hpairs.imp fun {a b} hne => ?_)
  have hnames : outputName (plan.jobFor a) ≠ outputName (plan.jobFor b) := by
    intro heq
    exact hne (by rw [objectOf_eq_join, objectOf_eq_join, heq])
  have hsources : a.text ≠ b.text := by
    intro heq
    have hab : a = b := by cases a; cases b; exact congrArg Path.mk heq
    exact hne (by rw [hab])
  exact ⟨⟨outputNames_disjoint hnames, hsources⟩,
    ⟨outputNames_disjoint hnames.symm, hsources.symm⟩⟩

end Clinker.Build

import Clinker.Proofs.Build.Batches
import Clinker.Proofs.Link.Calls

/-!
# A build links once, at the end

The workers of a build may compile in any order, and once one compile has failed they need not
begin any other. `BuildsTo` lists what a build may come to in this way; going through the plan
batch by batch is one of them (`build_buildsTo`).

Whatever the order, until the link only tools of the compiles are called, and every record is that
of its job. Each step of a compile keeps this (`UnderWay.turn`), so all turns do. What is linked
then follows from the plan alone (`linkJob_objects`).
-/

namespace Clinker.Build

open Compile (InPipeline Named Progress pipeline)
open Dependency (Record)

variable {σ : Type} {s : Session} {runner : ToolRunner σ} {plan : Plan} {jobs : List CompileJob}
  {w : Workshop σ} {t : Turns σ jobs}

/-! ## Builds in any order -/

/-- Link the objects of some jobs, of which the records are known. -/
def linked (s : Session) (runner : ToolRunner σ) (plan : Plan) (jobs : List CompileJob)
    (records : List Record) (w : Workshop σ) : Except BuildError Outcome × Workshop σ :=
  let (artifact, w) := Link.link s runner s.arch (plan.linkJob jobs) w
  (artifact.map fun target => ⟨records, target⟩, w)

theorem records_of_linked {records : List Record} {outcome : Outcome}
    (h : (linked s runner plan jobs records w).1 = .ok outcome) : outcome.records = records := by
  rw [linked] at h
  rcases hlink : Link.link s runner s.arch (plan.linkJob jobs) w with ⟨e | target, left⟩
  all_goals
    rw [hlink] at h
    cases h
  rfl

/-- What a build may come to when its workers compile in any order. -/
inductive BuildsTo (s : Session) (runner : ToolRunner σ) (plan : Plan) (w : Workshop σ) :
    Except BuildError Outcome × Workshop σ → Prop
  /-- The plan cannot be used. -/
  | rejected {e : BuildError} : plan.compileJobs = .error e → BuildsTo s runner plan w (.error e, w)
  /-- A compile has failed, and no other is going on any more. -/
  | failed {jobs : List CompileJob} {schedule : List (Fin jobs.length)} {e : BuildError} :
      plan.compileJobs = .ok jobs →
      Collected (takeTurns s runner jobs schedule w) (List.finRange jobs.length) (.error e) →
      BuildsTo s runner plan w (.error e, (takeTurns s runner jobs schedule w).workshop)
  /-- All compiles have succeeded. -/
  | linked {jobs : List CompileJob} {schedule : List (Fin jobs.length)} {records : List Record} :
      plan.compileJobs = .ok jobs →
      Collected (takeTurns s runner jobs schedule w) (List.finRange jobs.length) (.ok records) →
      BuildsTo s runner plan w
        (linked s runner plan jobs records (takeTurns s runner jobs schedule w).workshop)

/-- **To build batch by batch is one way to build.** -/
theorem build_buildsTo (s : Session) (runner : ToolRunner σ) (workers : Option Nat) (plan : Plan)
    (w : Workshop σ) : BuildsTo s runner plan w (build s runner workers plan w) := by
  rw [build]
  cases hplan : plan.compileJobs with
  | error e => exact .rejected hplan
  | ok jobs =>
    obtain ⟨schedule, hworkshop, hcollected⟩ := takeTurns_batches s runner workers jobs w
    rcases hbatches : compileBatches s runner (batches workers jobs) w with ⟨e | records, left⟩
    all_goals
      rw [hbatches] at hworkshop hcollected
      obtain rfl : _ = left := hworkshop
      simp only [hbatches]
    · exact .failed hplan hcollected
    · exact .linked hplan hcollected

/-! ## Until the link -/

/-- What is known while the jobs of a plan take turns from a workshop on. -/
structure UnderWay (s : Session) (w : Workshop σ) (t : Turns σ jobs) : Prop where
  inPipeline : ∀ i, InPipeline s (jobs.get i) (t.progress i)
  named : ∀ i, Named (jobs.get i) (t.progress i)
  calls : ∃ commands, t.workshop.calls = w.calls ++ commands ∧
    ∀ c ∈ commands, ∃ job ∈ jobs, c ∈ pipeline s job

theorem underWay_start (s : Session) (jobs : List CompileJob) (w : Workshop σ) :
    UnderWay s w (.start jobs w) where
  inPipeline := fun _ => Compile.inPipeline_start
  named := fun _ => nofun
  calls := ⟨[], (List.append_nil w.calls).symm, by simp⟩

/-- **Every turn calls tools of its job and makes the record of its job.** -/
theorem UnderWay.turn (h : UnderWay s w t) (runner : ToolRunner σ) (i : Fin jobs.length) :
    UnderWay s w (t.turn s runner i) := by
  have hpipeline := (Turns.forall_progress_turn (P := fun j p => InPipeline s (jobs.get j) p) t i).2
    ⟨Compile.inPipeline_step s runner _ _ _, fun j _ => h.inPipeline j⟩
  have hnamed := (Turns.forall_progress_turn (P := fun j p => Named (jobs.get j) p) t i).2
    ⟨Compile.step_named (h.named i) s runner t.workshop, fun j _ => h.named j⟩
  obtain ⟨earlier, hearlier, hmem⟩ := h.calls
  obtain ⟨commands, hcalls, hjob⟩ := Compile.step_calls (h.inPipeline i) runner t.workshop
  refine ⟨hpipeline, hnamed, earlier ++ commands, ?_, fun c hc => ?_⟩
  · have hturn : (t.turn s runner i).workshop.calls = t.workshop.calls ++ commands := hcalls
    rw [hturn, hearlier, List.append_assoc]
  · obtain hc | hc := List.mem_append.1 hc
    · exact hmem c hc
    · exact ⟨jobs.get i, List.get_mem jobs i, hjob c hc⟩

/-- **Whatever the schedule, all jobs stay under way.** -/
theorem takeTurns_underWay (s : Session) (runner : ToolRunner σ) (jobs : List CompileJob)
    (schedule : List (Fin jobs.length)) (w : Workshop σ) :
    UnderWay s w (takeTurns s runner jobs schedule w) :=
  List.foldlRecOn schedule _ (underWay_start s jobs w) fun _ h i _ => h.turn runner i

/-- The records of jobs that have all succeeded are those of the jobs, in order. -/
theorem UnderWay.records (h : UnderWay s w t) {records : List Record}
    (hrecords : (List.finRange jobs.length).map t.progress =
      records.map fun record => .finished (.ok record)) :
    records.map (fun record => (record.source, record.object)) =
      jobs.map fun job => (job.source, job.object) := by
  have hlength : records.length = jobs.length := by
    simpa using (congrArg List.length hrecords).symm
  refine List.ext_getElem (by simpa using hlength) fun n hn hn' => ?_
  rw [List.length_map] at hn hn'
  have hprogress : t.progress ⟨n, hn'⟩ = .finished (.ok records[n]) := by
    simpa [List.getElem?_map, hn, hn'] using congrArg (·[n]?) hrecords
  have hnamed := h.named ⟨n, hn'⟩
  rw [hprogress] at hnamed
  obtain ⟨hsource, hobject⟩ := hnamed records[n] rfl
  rw [List.getElem_map, List.getElem_map, hsource, hobject]
  rfl

/-! ## What is linked -/

/-- **The linker gets the objects of all sources that are no interface definitions**, in order. -/
theorem linkJob_objects (h : plan.compileJobs = .ok jobs) : (plan.linkJob jobs).objects =
    (plan.sources.filter fun source => SourceKind.ofPath source != .interfaceDefinition).map
      plan.objectOf := by
  obtain ⟨rfl, -, -⟩ := Plan.jobsAfter_eq_ok h
  simp only [Plan.linkJob, List.filter_map, List.map_map, Function.comp_def, CompileJob.kind,
    Plan.jobFor]

theorem nodup_objects (h : plan.compileJobs = .ok jobs) : (plan.linkJob jobs).objects.Nodup := by
  obtain ⟨-, -, hpairs⟩ := Plan.jobsAfter_eq_ok h
  rw [linkJob_objects h]
  exact List.pairwise_map.2 (hpairs.filter _)

/-! ## Whole builds -/

/-- What follows once the compiles of an accepted plan have come to rest. -/
structure Concluded (s : Session) (runner : ToolRunner σ) (plan : Plan) (t : Turns σ jobs)
    (built : Except BuildError Outcome × Workshop σ) : Prop where
  /-- If all compiles have succeeded the artifact is linked, with at most one call, and nothing
  else is done. -/
  linked : (∀ i, ∃ record, t.progress i = .finished (.ok record)) → ∃ records commands,
    (List.finRange jobs.length).map t.progress =
      records.map (fun record => .finished (.ok record)) ∧
    built = linked s runner plan jobs records t.workshop ∧
    built.2.calls = t.workshop.calls ++ commands ∧ commands.length ≤ 1 ∧
    ∀ c ∈ commands, c.program = if plan.options.artifact = .staticLibrary then s.tools.archiver
      else s.tools.linker
  /-- If not, one has failed, its error is the result and nothing is done. -/
  stopped : (¬ ∀ i, ∃ record, t.progress i = .finished (.ok record)) →
    ∃ i e, t.progress i = .finished (.error e) ∧ built = (.error e, t.workshop)

/-- A build links at most once, last, and with the right objects. -/
structure LinksOnce (s : Session) (runner : ToolRunner σ) (plan : Plan) (w : Workshop σ)
    (built : Except BuildError Outcome × Workshop σ) : Prop where
  /-- If the plan cannot be used nothing is done. -/
  rejected : ∀ e, plan.compileJobs = .error e → built = (.error e, w)
  /-- If it can, the compiles take turns until they rest, and no other tools are called. -/
  compiled : ∀ jobs, plan.compileJobs = .ok jobs → ∃ schedule commands,
    (takeTurns s runner jobs schedule w).Resting (List.finRange jobs.length) ∧
    (takeTurns s runner jobs schedule w).workshop.calls = w.calls ++ commands ∧
    (∀ c ∈ commands, ∃ job ∈ jobs, c ∈ pipeline s job) ∧
    Concluded s runner plan (takeTurns s runner jobs schedule w) built
  /-- The objects to link are those of all sources that are no interface definitions. -/
  objects : ∀ jobs, plan.compileJobs = .ok jobs → (plan.linkJob jobs).objects =
    (plan.sources.filter fun source => SourceKind.ofPath source != .interfaceDefinition).map
      plan.objectOf
  /-- Each of them is linked once. -/
  nodup : ∀ jobs, plan.compileJobs = .ok jobs → (plan.linkJob jobs).objects.Nodup
  /-- There is one record per source, in order. -/
  records : ∀ outcome, built.1 = .ok outcome →
    outcome.records.map (fun record => (record.source, record.object)) =
      plan.sources.map fun source => (source, plan.objectOf source)

theorem concluded_of_failed {e : BuildError}
    (h : Collected t (List.finRange jobs.length) (.error e)) :
    Concluded s runner plan t (.error e, t.workshop) := by
  obtain _ | ⟨-, -, hfailed⟩ := h
  rename_i i
  refine ⟨fun hall => ?_, fun _ => ⟨i, e, hfailed, rfl⟩⟩
  obtain ⟨record, hok⟩ := hall i
  rw [hfailed] at hok
  cases hok

theorem concluded_of_linked {records : List Record}
    (h : Collected t (List.finRange jobs.length) (.ok records)) :
    Concluded s runner plan t (linked s runner plan jobs records t.workshop) := by
  obtain ⟨hrecords⟩ | _ := h
  refine ⟨fun _ => ?_, fun hnot => absurd (fun i => ?_) hnot⟩
  · obtain ⟨commands, hcalls, hlength, hprogram⟩ :=
      Link.link_calls s runner (plan.linkJob jobs) t.workshop
    exact ⟨records, commands, hrecords, rfl, hcalls, hlength, hprogram⟩
  · have hmem : t.progress i ∈ records.map fun record => Progress.finished (.ok record) :=
      hrecords ▸ List.mem_map_of_mem (List.mem_finRange i)
    obtain ⟨record, -, hok⟩ := List.mem_map.1 hmem
    exact ⟨record, hok.symm⟩

/-- What has been concluded is all there is to a build. -/
theorem linksOnce_of_concluded {built : Except BuildError Outcome × Workshop σ}
    (hplan : plan.compileJobs = .ok jobs) (schedule : List (Fin jobs.length))
    (hresting : (takeTurns s runner jobs schedule w).Resting (List.finRange jobs.length))
    (hconcluded : Concluded s runner plan (takeTurns s runner jobs schedule w) built)
    (hrecords : ∀ outcome, built.1 = .ok outcome →
      (List.finRange jobs.length).map (takeTurns s runner jobs schedule w).progress =
        outcome.records.map fun record => .finished (.ok record)) :
    LinksOnce s runner plan w built where
  rejected := by
    intro e he
    rw [hplan] at he
    cases he
  compiled := by
    intro jobs' hjobs
    obtain rfl : jobs = jobs' := Except.ok.inj (hplan.symm.trans hjobs)
    obtain ⟨commands, hcalls, hpipeline⟩ := (takeTurns_underWay s runner jobs schedule w).calls
    exact ⟨schedule, commands, hresting, hcalls, hpipeline, hconcluded⟩
  objects := fun _ => linkJob_objects
  nodup := fun _ => nodup_objects
  records := by
    intro outcome houtcome
    obtain ⟨rfl, -, -⟩ := Plan.jobsAfter_eq_ok hplan
    have hnamed := (takeTurns_underWay s runner _ schedule w).records (hrecords outcome houtcome)
    simp only [hnamed, List.map_map, Function.comp_def, Plan.jobFor]

/-- **A build links once, last, and with the right objects**, in whatever order its workers
compile. A plan that cannot be used calls no tool. For any other the compiles take turns, and until
they rest no tools are called but theirs. If all have succeeded the artifact is linked from the
objects of all sources that are no interface definitions, each once and in order, and the records
of a success are those of all sources in order. If not, the result is the error of one that has
failed, and no tool is called any more. -/
theorem build_linksOnce (s : Session) (runner : ToolRunner σ) (workers : Option Nat) (plan : Plan)
    (w : Workshop σ) : BuildsTo s runner plan w (build s runner workers plan w) ∧
      ∀ built, BuildsTo s runner plan w built → LinksOnce s runner plan w built := by
  refine ⟨build_buildsTo s runner workers plan w, fun built hbuilt => ?_⟩
  cases hbuilt with
  | @rejected e hplan =>
    have hnone : ∀ jobs, plan.compileJobs ≠ .ok jobs := fun jobs hjobs => by
      rw [hplan] at hjobs
      cases hjobs
    refine ⟨fun e' he' => ?_, fun jobs hjobs => absurd hjobs (hnone jobs),
      fun _ => linkJob_objects, fun _ => nodup_objects, nofun⟩
    rw [hplan, Except.error.injEq] at he'
    rw [he']
  | @failed jobs schedule e hplan hcollected =>
    exact linksOnce_of_concluded hplan schedule hcollected.resting
      (concluded_of_failed hcollected) nofun
  | @linked jobs schedule records hplan hcollected =>
    refine linksOnce_of_concluded hplan schedule hcollected.resting
      (concluded_of_linked hcollected) fun outcome houtcome => ?_
    obtain ⟨hrecords⟩ | _ := hcollected
    rw [hrecords, records_of_linked houtcome]

end Clinker.Build

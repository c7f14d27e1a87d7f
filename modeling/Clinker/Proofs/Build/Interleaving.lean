import Clinker.Proofs.Build.Outputs
import Clinker.Proofs.Link.ResponseFile
import Mathlib.Logic.Function.Basic

/-!
# Compiles that take turns

The compiles of a plan take turns in some order, one step at a time (`takeTurns`), until all of
them are finished. Where they end up does not depend on the order, so it is where they end up one
after the other.

What carries the argument is `OnCourse`: for every job, if the others stopped now it would come to
what it would have come to alone, from the beginning. A step of the job itself is part of that; a
step of another job is nothing to it, because no two jobs of a plan have an output or a source in
common. For this the folder of the outputs must be there. The first step of all creates it, and
if it cannot be created every job fails.
-/

namespace Clinker.Build

open Compile (Apart InPipeline OutputsIn Progress SameFor SameForJob finish outputNames pipeline)
open Dependency (Record)
open FileSystem (Settled)

variable {σ : Type} {s : Session} {runner : ToolRunner σ} {jobs : List CompileJob} {dir : Path}
  {w : Workshop σ}

/-! ## Turns -/

/-- Where the compile of each job is, and the workshop that they share. -/
structure Turns (σ : Type) (jobs : List CompileJob) where
  progress : Fin jobs.length → Progress
  workshop : Workshop σ

namespace Turns

/-- No job has begun. -/
def start (jobs : List CompileJob) (w : Workshop σ) : Turns σ jobs := ⟨fun _ => .start, w⟩

/-- One job takes its next step. A job that is finished does nothing. -/
def turn (s : Session) (runner : ToolRunner σ) (t : Turns σ jobs) (i : Fin jobs.length) :
    Turns σ jobs :=
  let next := Compile.step s runner jobs[i] (t.progress i) t.workshop
  ⟨Function.update t.progress i next.1, next.2⟩

@[simp] theorem workshop_turn (t : Turns σ jobs) (i : Fin jobs.length) :
    (t.turn s runner i).workshop =
      (Compile.step s runner jobs[i] (t.progress i) t.workshop).2 := rfl

@[simp] theorem progress_turn_self (t : Turns σ jobs) (i : Fin jobs.length) :
    (t.turn s runner i).progress i =
      (Compile.step s runner jobs[i] (t.progress i) t.workshop).1 :=
  Function.update_self i _ _

theorem progress_turn_of_ne (t : Turns σ jobs) {i j : Fin jobs.length} (h : j ≠ i) :
    (t.turn s runner i).progress j = t.progress j :=
  Function.update_of_ne h _ _

/-- A turn is a step of one job and nothing to the others. -/
theorem forall_progress_turn {P : Fin jobs.length → Progress → Prop} (t : Turns σ jobs)
    (i : Fin jobs.length) : (∀ j, P j ((t.turn s runner i).progress j)) ↔
      P i (Compile.step s runner jobs[i] (t.progress i) t.workshop).1 ∧
        ∀ j, j ≠ i → P j (t.progress j) :=
  Function.forall_update_iff t.progress P

/-- Every job is finished. -/
def Complete (t : Turns σ jobs) : Prop := ∀ i, ∃ result, t.progress i = .finished result

theorem complete_iff (t : Turns σ jobs) :
    t.Complete ↔ ∀ i, (t.progress i).result?.isSome = true := by
  refine forall_congr' fun i => ?_
  cases t.progress i <;> simp [Progress.result?]

instance (t : Turns σ jobs) : Decidable t.Complete := decidable_of_iff' _ t.complete_iff

end Turns

/-- The jobs take turns as a schedule says, which names the job that takes each step. -/
def takeTurns (s : Session) (runner : ToolRunner σ) (jobs : List CompileJob)
    (schedule : List (Fin jobs.length)) (w : Workshop σ) : Turns σ jobs :=
  schedule.foldl (Turns.turn s runner) (.start jobs w)

/-! ### Schedules that are long enough -/

theorem remaining_step_le (s : Session) (runner : ToolRunner σ) (job : CompileJob) (p : Progress)
    (w : Workshop σ) : (Compile.step s runner job p w).1.remaining ≤ p.remaining - 1 := by
  rcases Nat.eq_zero_or_pos p.remaining with hzero | hpos
  · cases p with
    | finished result => exact Nat.le_refl 0
    | _ => cases hzero
  · exact Nat.le_sub_one_of_lt (Compile.remaining_step_lt s runner job p w hpos)

/-- Every turn of a job brings its end nearer. -/
theorem remaining_foldl_turn_le (s : Session) (runner : ToolRunner σ)
    (schedule : List (Fin jobs.length)) (t : Turns σ jobs) (i : Fin jobs.length) :
    ((schedule.foldl (Turns.turn s runner) t).progress i).remaining ≤
      (t.progress i).remaining - schedule.count i := by
  induction schedule generalizing t with
  | nil => exact Nat.le_refl _
  | cons j schedule ih =>
    refine Nat.le_trans (ih (t.turn s runner j)) ?_
    by_cases hj : i = j
    · subst hj
      have hstep := remaining_step_le s runner jobs[i] (t.progress i) t.workshop
      rw [Turns.progress_turn_self, List.count_cons_self]
      omega
    · rw [Turns.progress_turn_of_ne t hj, List.count_cons_of_ne (Ne.symm hj)]

/-- **Six turns are enough for every job.** -/
theorem complete_of_six_turns {schedule : List (Fin jobs.length)}
    (h : ∀ i, 6 ≤ schedule.count i) : (takeTurns s runner jobs schedule w).Complete := by
  intro i
  have hle := remaining_foldl_turn_le s runner schedule (.start jobs w) i
  have hzero : ((takeTurns s runner jobs schedule w).progress i).remaining = 0 :=
    Nat.eq_zero_of_le_zero (Nat.le_trans hle (Nat.le_of_eq (Nat.sub_eq_zero_of_le (h i))))
  cases hp : (takeTurns s runner jobs schedule w).progress i with
  | finished result => exact ⟨result, rfl⟩
  | _ => simp [hp, Progress.remaining] at hzero

/-! ## Jobs that do not get in each other's way -/

/-- Jobs with outputs in one folder, of which no two have an output or a source in common, and
whose tools keep to the object and the report. -/
structure Independent (s : Session) (runner : ToolRunner σ) (dir : Path)
    (jobs : List CompileJob) : Prop where
  outputs : ∀ job ∈ jobs, OutputsIn dir job
  tools : ∀ job ∈ jobs, ∀ c ∈ pipeline s job, runner.Confined c [job.object, job.report]
  apart : jobs.Pairwise fun a b => Apart a (outputNames b) b.source.text ∧
    Apart b (outputNames a) a.source.text

namespace Independent

variable {job : CompileJob}

theorem head (h : Independent s runner dir (job :: jobs)) : OutputsIn dir job ∧
    ∀ c ∈ pipeline s job, runner.Confined c [job.object, job.report] :=
  ⟨h.outputs job List.mem_cons_self, h.tools job List.mem_cons_self⟩

theorem tail (h : Independent s runner dir (job :: jobs)) : Independent s runner dir jobs :=
  ⟨fun j hj => h.outputs j (List.mem_cons_of_mem _ hj),
    fun j hj => h.tools j (List.mem_cons_of_mem _ hj), (List.pairwise_cons.1 h.apart).2⟩

theorem apart_of_ne (h : Independent s runner dir jobs) {i j : Fin jobs.length} (hij : i ≠ j) :
    Apart jobs[i] (outputNames jobs[j]) jobs[j].source.text := by
  have hpairs := List.pairwise_iff_getElem.1 h.apart
  obtain hlt | hgt := Nat.lt_or_gt_of_ne (Fin.val_ne_of_ne hij)
  · exact (hpairs i j i.2 j.2 hlt).1
  · exact (hpairs j i j.2 i.2 hgt).2

end Independent

/-! ## Taking turns in a folder that is there -/

/-- Taking a step first changes nothing about where a compile comes to. -/
theorem finish_step_eq (s : Session) (runner : ToolRunner σ) (job : CompileJob) (p : Progress)
    (w : Workshop σ) : finish s runner job (Compile.step s runner job p w).1
      (Compile.step s runner job p w).2 = finish s runner job p w := by
  cases h : p.result? with
  | some result =>
    obtain rfl := Compile.eq_finished_of_result? h
    rfl
  | none => exact (Compile.finish_step h s runner job w).symm

/-- Every job would come to what it would have come to alone, from `w`. What is recorded about
sources of no job is as it was. -/
structure OnCourse (s : Session) (runner : ToolRunner σ) (dir : Path) (w : Workshop σ)
    (t : Turns σ jobs) : Prop where
  settled : Settled dir t.workshop.files
  inPipeline : ∀ i, InPipeline s jobs[i] (t.progress i)
  result : ∀ i, (finish s runner jobs[i] (t.progress i) t.workshop).1 =
    (finish s runner jobs[i] .start w).1
  same : ∀ i, SameForJob dir jobs[i] (finish s runner jobs[i] .start w).2
    (finish s runner jobs[i] (t.progress i) t.workshop).2
  elsewhere : ∀ file, (∀ job ∈ jobs, job.source.text ≠ file) →
    SameFor dir [] file w t.workshop

theorem onCourse_start (hind : Independent s runner dir jobs) (hs : Settled dir w.files) :
    OnCourse s runner dir w (.start jobs w) where
  settled := hs
  inPipeline := fun _ => Compile.inPipeline_start
  result := fun _ => rfl
  same := by
    intro i
    have hmem : jobs[i] ∈ jobs := List.getElem_mem i.2
    exact (Compile.finish_congr (hind.outputs _ hmem) (hind.tools _ hmem)
      Compile.inPipeline_start (.refl hs)).2
  elsewhere := fun _ _ => .refl hs

/-- **Every turn keeps all jobs on course.** -/
theorem OnCourse.turn (hind : Independent s runner dir jobs) {t : Turns σ jobs}
    (h : OnCourse s runner dir w t) (i : Fin jobs.length) :
    OnCourse s runner dir w (t.turn s runner i) := by
  have hout := fun j : Fin jobs.length => hind.outputs jobs[j] (List.getElem_mem j.2)
  have htools := fun j : Fin jobs.length => hind.tools jobs[j] (List.getElem_mem j.2)
  -- The turn of job `i` is a step of its own; to every other job `j` it is nothing.
  have hstep := Compile.step_congr (hout i) (htools i) (h.inPipeline i) (.refl h.settled)
  have hframe : ∀ {names file}, Apart jobs[i] names file →
      SameFor dir names file t.workshop (t.turn s runner i).workshop := fun hapart =>
    Compile.step_frame (hout i) (htools i) (h.inPipeline i) hapart h.settled
  have hcongr := fun j (hj : j ≠ i) =>
    Compile.finish_congr (hout j) (htools j) (h.inPipeline j) (hframe (hind.apart_of_ne hj.symm))
  have hpipeline := (Turns.forall_progress_turn (P := fun j p => InPipeline s jobs[j] p) t i).2
    ⟨Compile.inPipeline_step s runner _ _ _, fun j _ => h.inPipeline j⟩
  refine ⟨hstep.2.files.settled, hpipeline, fun j => ?_, fun j => ?_, fun file hfile => ?_⟩
  · by_cases hj : j = i
    · subst hj
      rw [Turns.progress_turn_self, Turns.workshop_turn, finish_step_eq, h.result]
    · rw [Turns.progress_turn_of_ne t hj, (hcongr j hj).1, h.result]
  · by_cases hj : j = i
    · subst hj
      rw [Turns.progress_turn_self, Turns.workshop_turn, finish_step_eq]
      exact h.same j
    · rw [Turns.progress_turn_of_ne t hj]
      exact (h.same j).trans (hcongr j hj).2
  · have hapart : Apart jobs[i] [] file :=
      ⟨fun _ _ => List.not_mem_nil, hfile _ (List.getElem_mem i.2)⟩
    exact (h.elsewhere file hfile).trans (hframe hapart)

/-- **Whatever the schedule, all jobs stay on course.** -/
theorem takeTurns_onCourse (hind : Independent s runner dir jobs) (hs : Settled dir w.files)
    (schedule : List (Fin jobs.length)) :
    OnCourse s runner dir w (takeTurns s runner jobs schedule w) :=
  List.foldlRecOn schedule _ (onCourse_start hind hs) fun _ h i _ => h.turn hind i

/-! ## One after the other -/

theorem compile_own (s : Session) (runner : ToolRunner σ) (job : CompileJob) (w : Workshop σ) :
    Compile.compile s runner s.arch job w = finish s runner job .start w := by
  rw [Compile.compile, Session.checkArchitecture, if_pos (by simp)]

/-- **A batch is nothing to those apart from all its jobs.** -/
theorem compileBatch_frame {names : List String} {file : String}
    (hind : Independent s runner dir jobs) (hapart : ∀ job ∈ jobs, Apart job names file)
    (hs : Settled dir w.files) : SameFor dir names file w (compileBatch s runner jobs w).2 := by
  induction jobs generalizing w with
  | nil => exact .refl hs
  | cons job jobs ih =>
    obtain ⟨hhead, hrest⟩ := List.forall_mem_cons.1 hapart
    have hfirst := Compile.finish_frame hind.head.1 hind.head.2 Compile.inPipeline_start hhead hs
    simp only [compileBatch, compile_own]
    exact hfirst.trans (ih hind.tail hrest hfirst.files.settled')

/-- **In a batch each job comes to what it would have come to alone.** -/
theorem compileBatch_alone (hind : Independent s runner dir jobs) (hs : Settled dir w.files) :
    (compileBatch s runner jobs w).1 = jobs.map (fun job => (finish s runner job .start w).1) ∧
      ∀ job ∈ jobs, SameForJob dir job (finish s runner job .start w).2
        (compileBatch s runner jobs w).2 := by
  induction jobs generalizing w with
  | nil => exact ⟨rfl, by simp⟩
  | cons job jobs ih =>
    obtain ⟨hhead, htail⟩ := hind.head
    obtain ⟨hpairs, -⟩ := List.pairwise_cons.1 hind.apart
    have hs' :=
      (Compile.finish_congr hhead htail Compile.inPipeline_start (.refl hs)).2.files.settled
    obtain ⟨hresults, hsame⟩ := ih hind.tail hs'
    have hcongr := fun other (hother : other ∈ jobs) =>
      Compile.finish_congr (hind.tail.outputs other hother) (hind.tail.tools other hother)
        Compile.inPipeline_start (Compile.finish_frame hhead htail Compile.inPipeline_start
          (hpairs other hother).1 hs)
    simp only [compileBatch, compile_own, List.map_cons]
    refine ⟨?_, List.forall_mem_cons.2 ⟨?_, fun other hother => ?_⟩⟩
    · rw [hresults, List.map_congr_left fun other hother => (hcongr other hother).1]
    · exact compileBatch_frame hind.tail (fun other hother => (hpairs other hother).2) hs'
    · exact (hcongr other hother).2.trans (hsame other hother)

/-- **In a folder that is there, turns and batches come to the same.** -/
theorem takeTurns_settled (hind : Independent s runner dir jobs) (hs : Settled dir w.files)
    {schedule : List (Fin jobs.length)}
    (hcomplete : (takeTurns s runner jobs schedule w).Complete) :
    (∀ i, ∃ result, (takeTurns s runner jobs schedule w).progress i = .finished result ∧
      (compileBatch s runner jobs w).1[i.val]? = some result) ∧
    (∀ job ∈ jobs, SameForJob dir job (compileBatch s runner jobs w).2
      (takeTurns s runner jobs schedule w).workshop) ∧
    ∀ file, (takeTurns s runner jobs schedule w).workshop.database.map (·.about file) =
      (compileBatch s runner jobs w).2.database.map (·.about file) := by
  have hturns := takeTurns_onCourse hind hs schedule
  generalize takeTurns s runner jobs schedule w = t at hcomplete hturns
  obtain ⟨hresults, hbatch⟩ := compileBatch_alone hind hs
  have hsame : ∀ job ∈ jobs, SameForJob dir job (compileBatch s runner jobs w).2 t.workshop := by
    intro job hjob
    obtain ⟨i, hi, rfl⟩ := List.getElem_of_mem hjob
    obtain ⟨result, hfinished⟩ := hcomplete ⟨i, hi⟩
    have halone := hturns.same ⟨i, hi⟩
    rw [hfinished, Compile.finish_finished] at halone
    exact (hbatch _ hjob).symm.trans halone
  refine ⟨fun i => ?_, hsame, fun file => ?_⟩
  · obtain ⟨result, hfinished⟩ := hcomplete i
    have halone := hturns.result i
    rw [hfinished, Compile.finish_finished] at halone
    refine ⟨result, hfinished, ?_⟩
    rw [hresults, List.getElem?_map, List.getElem?_eq_getElem i.2]
    exact congrArg some halone.symm
  · by_cases hfile : ∃ job ∈ jobs, job.source.text = file
    · obtain ⟨job, hjob, rfl⟩ := hfile
      exact (hsame job hjob).database
    · have hnone : ∀ job ∈ jobs, job.source.text ≠ file := fun job hjob heq =>
        hfile ⟨job, hjob, heq⟩
      have hapart : ∀ job ∈ jobs, Apart job [] file := fun job hjob =>
        ⟨fun _ _ => List.not_mem_nil, hnone job hjob⟩
      rw [(hturns.elsewhere file hnone).database,
        (compileBatch_frame hind hapart hs).database]

/-! ## The first step -/

section FirstStep

variable {files : FileSystem} {first again : SystemError}

/-- **The first turn creates the folder**, whoever takes it. -/
theorem takeTurns_of_created (hind : Independent s runner dir jobs)
    (hcreate : w.files.createFolder dir w.limits = (.ok (), files)) (i : Fin jobs.length)
    (schedule : List (Fin jobs.length)) : takeTurns s runner jobs (i :: schedule) w =
      takeTurns s runner jobs (i :: schedule) (w.withFiles files) := by
  have hout := hind.outputs jobs[i] (List.getElem_mem i.2)
  have hturn : (Turns.start jobs w).turn s runner i =
      (Turns.start jobs (w.withFiles files)).turn s runner i := by
    have hsettled := FileSystem.settled_of_createFolder hcreate
    simp only [Turns.turn, Turns.start, Compile.step_start_of_created hout hcreate]
    rw [Compile.step_start_of_settled hout (w := w.withFiles files) hsettled]
  rw [takeTurns, takeTurns, List.foldl_cons, List.foldl_cons, hturn]

theorem finish_of_created {job : CompileJob} (hout : OutputsIn dir job)
    (hcreate : w.files.createFolder dir w.limits = (.ok (), files)) :
    finish s runner job .start w = finish s runner job .start (w.withFiles files) := by
  have hsettled := FileSystem.settled_of_createFolder hcreate
  have hstep := Compile.finish_step rfl s runner job w (p := .start)
  have hstep' := Compile.finish_step rfl s runner job (w.withFiles files) (p := .start)
  rw [Compile.step_start_of_created hout hcreate] at hstep
  rw [Compile.step_start_of_settled (w := w.withFiles files) hout hsettled] at hstep'
  rw [hstep, hstep']

theorem compileBatch_of_created {job : CompileJob}
    (hind : Independent s runner dir (job :: jobs))
    (hcreate : w.files.createFolder dir w.limits = (.ok (), files)) :
    compileBatch s runner (job :: jobs) w =
      compileBatch s runner (job :: jobs) (w.withFiles files) := by
  simp only [compileBatch, compile_own, finish_of_created hind.head.1 hcreate]

/-- What a job comes to when its folder cannot be created. -/
def refusal (job : CompileJob) (cause : SystemError) : Except BuildError Record :=
  .error (.fileAccess job.object cause)

/-- Job `i` is refused for one reason, and every other job that has begun for another one. -/
structure Stuck (i : Fin jobs.length) (first again : SystemError) (w : Workshop σ)
    (t : Turns σ jobs) : Prop where
  workshop : t.workshop = w
  progress : ∀ j, (j ≠ i ∧ t.progress j = .start) ∨
    t.progress j = .finished (refusal jobs[j] (if j = i then first else again))

/-- **Jobs without a folder stay stuck.** -/
theorem Stuck.turn (hind : Independent s runner dir jobs)
    (hagain : w.files.createFolder dir w.limits = (.error again, w.files)) {i : Fin jobs.length}
    {t : Turns σ jobs} (h : Stuck i first again w t) (j : Fin jobs.length) :
    Stuck i first again w (t.turn s runner j) := by
  have hout := hind.outputs jobs[j] (List.getElem_mem j.2)
  have hstep : Compile.step s runner jobs[j] (t.progress j) t.workshop =
      (.finished (refusal jobs[j] (if j = i then first else again)), w) := by
    rw [h.workshop]
    obtain ⟨hne, hstart⟩ | hfinished := h.progress j
    · rw [hstart, if_neg hne]
      exact Compile.step_start_of_refused hout hagain
    · rw [hfinished, Compile.step_finished]
  refine ⟨by rw [Turns.workshop_turn, hstep], fun k => ?_⟩
  by_cases hk : k = j
  · subst hk
    rw [Turns.progress_turn_self, hstep]
    exact .inr rfl
  · rw [Turns.progress_turn_of_ne t hk]
    exact h.progress k

/-- **Without a folder every job is refused**, whatever the schedule. -/
theorem takeTurns_of_refused (hind : Independent s runner dir jobs)
    (hfirst : w.files.createFolder dir w.limits = (.error first, files))
    (hagain : files.createFolder dir w.limits = (.error again, files)) (i : Fin jobs.length)
    (schedule : List (Fin jobs.length)) :
    Stuck i first again (w.withFiles files) (takeTurns s runner jobs (i :: schedule) w) := by
  have hstep : Compile.step s runner jobs[i] .start w =
      (.finished (refusal jobs[i] first), w.withFiles files) :=
    Compile.step_start_of_refused (hind.outputs jobs[i] (List.getElem_mem i.2)) hfirst
  -- The first turn leaves the jobs stuck, and all later ones keep them so.
  refine List.foldlRecOn schedule _ ⟨?_, fun j => ?_⟩ fun _ h j _ => h.turn hind hagain j
  · rw [Turns.workshop_turn]
    exact congrArg Prod.snd hstep
  · by_cases hj : j = i
    · subst hj
      rw [Turns.progress_turn_self, if_pos rfl]
      exact .inr (congrArg Prod.fst hstep)
    · rw [Turns.progress_turn_of_ne _ hj]
      exact .inl ⟨hj, rfl⟩

theorem finish_of_refused {job : CompileJob} (hout : OutputsIn dir job)
    (hcreate : w.files.createFolder dir w.limits = (.error first, files)) :
    finish s runner job .start w = (refusal job first, w.withFiles files) := by
  have hstep := Compile.finish_step rfl s runner job w (p := .start)
  rw [Compile.step_start_of_refused hout hcreate, Compile.finish_finished] at hstep
  exact hstep

theorem compileBatch_of_refused (hind : Independent s runner dir jobs)
    (hagain : w.files.createFolder dir w.limits = (.error again, w.files)) :
    compileBatch s runner jobs w = (jobs.map (refusal · again), w) := by
  induction jobs with
  | nil => rfl
  | cons job jobs ih =>
    simp only [compileBatch, compile_own, finish_of_refused hind.head.1 hagain, List.map_cons]
    rw [show w.withFiles w.files = w from rfl, ih hind.tail]

/-- **A batch without a folder is refused as a whole.** -/
theorem compileBatch_refused {job : CompileJob}
    (hind : Independent s runner dir (job :: jobs))
    (hfirst : w.files.createFolder dir w.limits = (.error first, files))
    (hagain : files.createFolder dir w.limits = (.error again, files)) :
    (compileBatch s runner (job :: jobs) w).2 = w.withFiles files ∧
    ∀ i : Fin (job :: jobs).length, (compileBatch s runner (job :: jobs) w).1[i.val]? =
      some (refusal (job :: jobs)[i] (if i.val = 0 then first else again)) := by
  have hrest := compileBatch_of_refused (w := w.withFiles files) hind.tail hagain
  simp only [compileBatch, compile_own, finish_of_refused hind.head.1 hfirst, hrest]
  refine ⟨trivial, fun i => ?_⟩
  cases i using Fin.cases with
  | zero => rfl
  | succ i =>
    show (jobs.map (refusal · again))[i.val]? = some (refusal jobs[i.val] again)
    rw [List.getElem?_map, List.getElem?_eq_getElem i.2]
    rfl

end FirstStep

/-! ## Any order -/

/-- Two results of a job are the same, or both refuse its object because the directory for it
cannot be created. The first job to try is told one reason and all others another one; `early` and
`early'` say whether the job was the first. -/
def SameResult (files : FileSystem) (limits : Limits) (job : CompileJob) (early early' : Prop)
    [Decidable early] [Decidable early'] (result result' : Except BuildError Record) : Prop :=
  result = result' ∨ ∃ first again made,
    files.createParent job.object limits = (.error first, made) ∧
    made.createParent job.object limits = (.error again, made) ∧
    result = refusal job (if early then first else again) ∧
    result' = refusal job (if early' then first else again)

/-- **Compiles that take turns come to the same as one after the other.** Whatever the schedule,
if all jobs of a plan finish, then each job has the result it has in a batch, all objects,
dependency files and reports are the same, and so is the listing of the database. Only when the
folder of the outputs cannot be created, so that every job is refused, may the reason depend on
which job has been the first to try. -/
theorem takeTurns_eq_compileBatch {plan : Plan} (hplan : plan.compileJobs = .ok jobs)
    (htools : ∀ job ∈ jobs, ∀ c ∈ pipeline s job, runner.Confined c [job.object, job.report])
    (schedule : List (Fin jobs.length)) (w : Workshop σ)
    (hcomplete : (takeTurns s runner jobs schedule w).Complete) :
    (∀ i : Fin jobs.length, ∃ result result',
      (takeTurns s runner jobs schedule w).progress i = .finished result ∧
      (compileBatch s runner jobs w).1[i.val]? = some result' ∧
      SameResult w.files w.limits jobs[i] (schedule.head? = some i) (i.val = 0) result result') ∧
    (∀ job ∈ jobs, ∀ p ∈ [job.object, job.depFile, job.report],
      (takeTurns s runner jobs schedule w).workshop.files.readBytes p =
        (compileBatch s runner jobs w).2.files.readBytes p) ∧
    (takeTurns s runner jobs schedule w).workshop.database.map (·.entries) =
      (compileBatch s runner jobs w).2.database.map (·.entries) := by
  have hind : Independent s runner plan.outDir jobs :=
    ⟨Plan.outputsIn_of_compileJobs hplan, htools, Plan.apart_of_compileJobs hplan⟩
  match jobs, schedule with
  | [], [] => exact ⟨fun i => i.elim0, by simp, rfl⟩
  | job :: jobs, [] =>
    obtain ⟨result, hfinished⟩ := hcomplete ⟨0, Nat.succ_pos _⟩
    cases hfinished
  | job :: jobs, i :: schedule =>
    have hparent : ∀ (j : Fin (job :: jobs).length) (fs : FileSystem),
        fs.createParent (job :: jobs)[j].object w.limits =
          fs.createFolder plan.outDir w.limits := by
      intro j fs
      have hout : OutputsIn plan.outDir (job :: jobs)[j] :=
        hind.outputs _ (List.getElem_mem j.2)
      rw [hout.object]
      exact FileSystem.createParent_join (Compile.isName_outputName _) fs w.limits
    rcases hcreate : w.files.createFolder plan.outDir w.limits with ⟨first | _, files⟩
    · obtain ⟨again, hagain⟩ := FileSystem.createFolder_again_error hcreate
      have hstuck := takeTurns_of_refused hind hcreate hagain i schedule
      obtain ⟨hworkshop, hbatch⟩ := compileBatch_refused hind hcreate hagain
      rw [hworkshop, hstuck.workshop]
      refine ⟨fun j => ?_, fun _ _ _ _ => rfl, rfl⟩
      obtain ⟨result, hfinished⟩ := hcomplete j
      refine ⟨result, _, hfinished, hbatch j, .inr ⟨first, again, files, ?_, ?_, ?_, rfl⟩⟩
      · rw [hparent, hcreate]
      · rw [hparent, hagain]
      · obtain ⟨-, hstart⟩ | hrefused := hstuck.progress j
        · rw [hstart] at hfinished
          cases hfinished
        · rw [hrefused] at hfinished
          simp only [List.head?_cons, Option.some.injEq, eq_comm (a := i)]
          exact (Progress.finished.inj hfinished).symm
    · have hs : Settled plan.outDir (w.withFiles files).files :=
        FileSystem.settled_of_createFolder hcreate
      rw [takeTurns_of_created hind hcreate] at hcomplete ⊢
      rw [compileBatch_of_created hind hcreate]
      obtain ⟨hresults, hsame, hdatabase⟩ := takeTurns_settled hind hs hcomplete
      refine ⟨fun j => ?_, fun j hj => ?_, Database.map_entries_eq_of_about hdatabase⟩
      · obtain ⟨result, hfinished, hbatch⟩ := hresults j
        exact ⟨result, result, hfinished, hbatch, .inl rfl⟩
      · exact Compile.SameForJob.readBytes (hind.outputs j hj) (hsame j hj)

/-! ### Two sources -/

section TwoSources

open Link (sampleSession)

/-- An ordinary source and a resource script with outputs in some folder. -/
def twoSources (outDir : Path) : Plan where
  sources := [⟨"a.cpp"⟩, ⟨"b.rc"⟩]
  outDir := outDir
  macros := []
  includeDirs := []
  runtime := .dynamic
  target := ⟨"app.exe"⟩
  options := ⟨.executable, .console, [], none⟩
  libDirs := []
  libs := []
  extraLinkArgs := []

def twoJobs (outDir : Path) : List CompileJob :=
  (twoSources outDir).sources.map (twoSources outDir).jobFor

/-- The second job takes each of its steps before the first one. -/
def secondFirst (outDir : Path) : List (Fin (twoJobs outDir).length) :=
  (List.replicate 6 [⟨1, Nat.lt_succ_self 1⟩, ⟨0, Nat.succ_pos 1⟩]).flatten

/-- The compilers write what they were asked for to the folder `out`. -/
def twoTools : ToolRunner Unit := .scripted fun c =>
  let touches : List Touch :=
    if c.program = ⟨"rc.exe"⟩ then [⟨⟨"out/b.res"⟩, some "resources".toUTF8⟩]
    else if c.hasArg "/sourceDependencies" then
      [⟨⟨"out/a.obj"⟩, some "code".toUTF8⟩, ⟨⟨"out/a.obj.d.json"⟩, some "[]".toUTF8⟩]
    else []
  (.ok ⟨some 0, "", ""⟩, touches)

theorem confined_twoTools : ∀ job ∈ twoJobs ⟨"out"⟩, ∀ c ∈ pipeline sampleSession job,
    twoTools.Confined c [job.object, job.report] := by
  intro job hjob c hc
  refine ToolRunner.confined_scripted ?_
  revert job c
  decide +kernel

theorem takeTurns_eq_compileBatch_twoSources :
    (twoSources ⟨"out"⟩).compileJobs = .ok (twoJobs ⟨"out"⟩) ∧
    (takeTurns sampleSession twoTools (twoJobs ⟨"out"⟩) (secondFirst _)
      (.start ⟨[], []⟩ () (some .empty))).Complete ∧
    (takeTurns sampleSession twoTools (twoJobs ⟨"out"⟩) (secondFirst _)
        (.start ⟨[], []⟩ () (some .empty))).workshop.database.map (·.entries) =
      (compileBatch sampleSession twoTools (twoJobs ⟨"out"⟩)
        (.start ⟨[], []⟩ () (some .empty))).2.database.map (·.entries) := by
  have hplan : (twoSources ⟨"out"⟩).compileJobs = .ok (twoJobs ⟨"out"⟩) := by decide +kernel
  have hcomplete : (takeTurns sampleSession twoTools (twoJobs ⟨"out"⟩) (secondFirst _)
      (.start ⟨[], []⟩ () (some .empty))).Complete :=
    complete_of_six_turns (by decide +kernel)
  exact ⟨hplan, hcomplete,
    (takeTurns_eq_compileBatch hplan confined_twoTools (secondFirst _) _ hcomplete).2.2⟩

/-- Tools that do nothing, and find nothing wrong. -/
def idleTools : ToolRunner Unit := .scripted fun _ => (.ok ⟨some 0, "", ""⟩, [])

/-- A file `f` in the working directory. -/
def blocked : Workshop Unit := .start ⟨[(["f"], .file ByteArray.empty false)], []⟩ () none

/-- **The reason for a refusal depends on the order.** The folder `x/../f/p` cannot be created
where `f` is a file. The first job to try creates `x` on the way and is told that there is a file
already; the other one is told that the file is no directory. -/
theorem takeTurns_ne_compileBatch_blocked :
    (twoSources ⟨"x/../f/p"⟩).compileJobs = .ok (twoJobs ⟨"x/../f/p"⟩) ∧
    (∀ job ∈ twoJobs ⟨"x/../f/p"⟩, ∀ c ∈ pipeline sampleSession job,
      idleTools.Confined c [job.object, job.report]) ∧
    (takeTurns sampleSession idleTools (twoJobs ⟨"x/../f/p"⟩) (secondFirst _) blocked).Complete ∧
    ¬ ∀ i : Fin (twoJobs ⟨"x/../f/p"⟩).length, ∃ result,
      (takeTurns sampleSession idleTools (twoJobs ⟨"x/../f/p"⟩) (secondFirst _)
          blocked).progress i = .finished result ∧
      (compileBatch sampleSession idleTools (twoJobs ⟨"x/../f/p"⟩) blocked).1[i.val]? =
        some result := by
  have hturns : ((takeTurns sampleSession idleTools (twoJobs ⟨"x/../f/p"⟩) (secondFirst _)
      blocked).progress ⟨0, by decide⟩).result? =
        some (.error (.fileAccess ⟨"x/../f/p/a.obj"⟩ .notADirectory)) := by
    decide +kernel
  have hbatch : (compileBatch sampleSession idleTools (twoJobs ⟨"x/../f/p"⟩) blocked).1[0]? =
      some (.error (.fileAccess ⟨"x/../f/p/a.obj"⟩ .alreadyExists)) := by
    decide +kernel
  refine ⟨by decide +kernel, fun job _ c _ => ToolRunner.confined_scripted (by simp),
    complete_of_six_turns (by decide +kernel), fun h => ?_⟩
  obtain ⟨result, hfinished, hresult⟩ := h ⟨0, by decide⟩
  rw [hfinished] at hturns
  rw [hbatch, Option.some.injEq] at hresult
  rw [← hresult, Progress.result?, Option.some.injEq] at hturns
  cases hturns

end TwoSources

end Clinker.Build

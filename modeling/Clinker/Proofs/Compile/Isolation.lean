import Clinker.Proofs.Compile.Calls
import Clinker.Proofs.Database.Files
import Clinker.Proofs.Workshop.Confined

/-!
# Compiles keep to themselves

In a folder that is there, a compile reads and writes the files of its own outputs, and the
database only as far as its own source is concerned. `SameFor` is what two workshops have in common
when they are the same for someone who sees some names in the folder and what is recorded about
some file. A step of a compile does the same in workshops that are the same for it (`step_congr`),
and leaves a workshop that is the same as before for everyone who sees none of its outputs and not
its source (`step_frame`). Both facts carry over from steps to whole compiles (`finish_congr`,
`finish_frame`).
-/

namespace Clinker.Compile

open Dependency (Record Report)
open FileSystem (AgreeOn Operation Settled TouchesIn)
open Clinker.Path (IsName)

variable {σ : Type} {s : Session} {runner : ToolRunner σ} {job : CompileJob} {dir : Path}
  {names : List String} {file : String} {w w' w'' : Workshop σ} {p : Progress}

/-! ## Outputs -/

/-- The name of an object: the stem of the source and the extension of its kind. -/
def outputName (job : CompileJob) : String :=
  job.source.stem?.getD "" ++ "." ++ job.kind.objectExtension

/-- The names of what a compile leaves: its object, the dependency file and the report. -/
def outputNames (job : CompileJob) : List String :=
  [outputName job, outputName job ++ ".d", outputName job ++ ".d" ++ ".json"]

/-- The outputs of a job lie in a folder and are named after its source. -/
structure OutputsIn (dir : Path) (job : CompileJob) : Prop where
  object : job.object = dir.join ⟨outputName job⟩
  depFile : job.depFile = dir.join ⟨outputName job ++ ".d"⟩

theorem isName_outputName (job : CompileJob) : IsName (outputName job) := by
  have hstem : '/' ∉ (job.source.stem?.getD "").toList := by
    cases h : job.source.stem? with
    | none => simp
    | some stem => exact Path.not_mem_stem? h
  have hext : '/' ∉ job.kind.objectExtension.toList ∧ job.kind.objectExtension.length = 3 := by
    cases job.kind <;> decide
  have hne : ∀ text : String, text.length ≤ 2 → outputName job ≠ text := by
    rintro text htext rfl
    rw [outputName, String.length_append, hext.2] at htext
    omega
  refine ⟨hne _ (by decide), ?_, hne _ (by decide), hne _ (by decide)⟩
  simp [outputName, String.toList_append, hstem, hext.1]

theorem isName_depFile (job : CompileJob) : IsName (outputName job ++ ".d") :=
  (isName_outputName job).append (by decide) (by decide)

theorem isName_report (job : CompileJob) : IsName (outputName job ++ ".d" ++ ".json") :=
  (isName_depFile job).append (by decide) (by decide)

namespace OutputsIn

theorem report (h : OutputsIn dir job) :
    job.report = dir.join ⟨outputName job ++ ".d" ++ ".json"⟩ := by
  rw [CompileJob.report, h.depFile, Path.suffixed_join (isName_depFile job) (isName_report job)]

/-- What a tool of the job may touch are outputs. -/
theorem touchesIn (h : OutputsIn dir job) {touches : List Touch}
    (ht : ∀ t ∈ touches, t.path ∈ [job.object, job.report]) :
    TouchesIn dir (outputNames job) touches := by
  intro t hmem
  have hpath := ht t hmem
  simp only [List.mem_cons, List.not_mem_nil, or_false] at hpath
  obtain hpath | hpath := hpath
  · exact ⟨_, by simp [outputNames], isName_outputName job, hpath.trans h.object⟩
  · exact ⟨_, by simp [outputNames], isName_report job, hpath.trans h.report⟩

end OutputsIn

/-! ## Points of view -/

/-- Two workshops agree on some names in a folder, on what the system refuses, and on what is
recorded about a file. -/
structure SameFor (dir : Path) (names : List String) (file : String) (w w' : Workshop σ) :
    Prop where
  files : AgreeOn dir names w.files w'.files
  limits : w'.limits = w.limits
  database : w'.database.map (·.about file) = w.database.map (·.about file)

namespace SameFor

theorem refl (hs : Settled dir w.files) : SameFor dir names file w w := ⟨.refl hs, rfl, rfl⟩

theorem symm (h : SameFor dir names file w w') : SameFor dir names file w' w :=
  ⟨h.files.symm, h.limits.symm, h.database.symm⟩

theorem trans (h : SameFor dir names file w w') (h' : SameFor dir names file w' w'') :
    SameFor dir names file w w'' :=
  ⟨h.files.trans h'.files, h'.limits.trans h.limits, h'.database.trans h.database⟩

end SameFor

/-- Two workshops are the same for a job: they agree on its outputs and on what is recorded about
its source. -/
abbrev SameForJob (dir : Path) (job : CompileJob) (w w' : Workshop σ) : Prop :=
  SameFor dir (outputNames job) job.source.text w w'

/-- **The outputs of a job have the same content in workshops that are the same for it.** -/
theorem SameForJob.readBytes (hout : OutputsIn dir job) (h : SameForJob dir job w w') :
    ∀ p ∈ [job.object, job.depFile, job.report], w'.files.readBytes p = w.files.readBytes p := by
  intro p hp
  simp only [List.mem_cons, List.not_mem_nil, or_false] at hp
  obtain rfl | rfl | rfl := hp
  · rw [hout.object]
    exact h.files.readBytes (isName_outputName job) (by simp [outputNames])
  · rw [hout.depFile]
    exact h.files.readBytes (isName_depFile job) (by simp [outputNames])
  · rw [hout.report]
    exact h.files.readBytes (isName_report job) (by simp [outputNames])

/-- Someone sees no output of a job and not its source. -/
structure Apart (job : CompileJob) (names : List String) (file : String) : Prop where
  outputs : ∀ output ∈ outputNames job, output ∉ names
  source : job.source.text ≠ file

/-! ## Steps in a folder that is there -/

/-- The first step creates the folder. -/
theorem step_start_of_created (h : OutputsIn dir job) {files : FileSystem}
    (hcreate : w.files.createFolder dir w.limits = (.ok (), files)) :
    step s runner job .start w = (.placesReady, w.withFiles files) := by
  have hsettled := FileSystem.settled_of_createFolder hcreate
  show makePlaces job w = _
  simp only [makePlaces, createPlaces, h.object, h.depFile,
    FileSystem.createParent_join (isName_outputName job),
    FileSystem.createParent_join (isName_depFile job), hcreate,
    FileSystem.createFolder_of_settled hsettled]

/-- Without the folder the first step is the last. -/
theorem step_start_of_refused (h : OutputsIn dir job) {files : FileSystem} {cause : SystemError}
    (hcreate : w.files.createFolder dir w.limits = (.error cause, files)) :
    step s runner job .start w =
      (.finished (.error (.fileAccess job.object cause)), w.withFiles files) := by
  show makePlaces job w = _
  simp only [makePlaces, createPlaces, h.object,
    FileSystem.createParent_join (isName_outputName job), hcreate]

/-- In a folder that is there the first step changes nothing. -/
theorem step_start_of_settled (h : OutputsIn dir job) (hs : Settled dir w.files) :
    step s runner job .start w = (.placesReady, w) :=
  step_start_of_created h (FileSystem.createFolder_of_settled hs)

/-- Where a compile is after an operation on one of its outputs. -/
def reviseThen (dir : Path) (name : String) (op : Operation) (refused : SystemError → Progress)
    (next : Progress) (w : Workshop σ) : Progress × Workshop σ :=
  match w.files.revise (dir.join ⟨name⟩) op with
  | (.error e, files) => (refused e, w.withFiles files)
  | (.ok (), files) => (next, w.withFiles files)

theorem clearReport_of_outputs (h : OutputsIn dir job) (w : Workshop σ) :
    clearReport job w = reviseThen dir (outputName job ++ ".d" ++ ".json") (.removing w.limits)
      (fun e => .finished (.error (.fileAccess job.report e))) .reportCleared w := by
  rw [clearReport, reviseThen, h.report, FileSystem.revise_removing (isName_report job)]
  cases w.files.removeFileIfExists (dir.join ⟨outputName job ++ ".d" ++ ".json"⟩) w.limits <;> rfl

theorem saveRecord_of_settled (h : OutputsIn dir job) (hs : Settled dir w.files)
    (record : Record) : saveRecord job record w =
      reviseThen dir (outputName job ++ ".d") (.writing record.makefile.toUTF8 w.limits)
        (fun e => .finished (.error (.fileAccess job.depFile e))) (.finished (.ok record)) w := by
  have hparent := (FileSystem.createParent_join (isName_depFile job) w.files w.limits).trans
    (FileSystem.createFolder_of_settled hs)
  simp only [saveRecord, Record.save, h.depFile, hparent, FileSystem.writeText, reviseThen,
    FileSystem.revise_writing (isName_depFile job)]
  cases w.files.writeBytes (dir.join ⟨outputName job ++ ".d"⟩) record.makefile.toUTF8 w.limits <;>
    rfl

/-! ### In two workshops -/

theorem reviseThen_congr {name : String} (hname : IsName name) (hmem : name ∈ names)
    (op : Operation) (refused : SystemError → Progress) (next : Progress)
    (hw : SameFor dir names file w w') :
    (reviseThen dir name op refused next w').1 = (reviseThen dir name op refused next w).1 ∧
      SameFor dir names file (reviseThen dir name op refused next w).2
        (reviseThen dir name op refused next w').2 := by
  obtain ⟨hresult, hagree⟩ := hw.files.revise hname hmem op
  unfold reviseThen
  rcases hrevise : w.files.revise (dir.join ⟨name⟩) op with ⟨_ | _, left⟩
  all_goals
    rcases hrevise' : w'.files.revise (dir.join ⟨name⟩) op with ⟨result', left'⟩
    rw [hrevise, hrevise'] at hresult hagree
    obtain rfl := hresult
    exact ⟨rfl, hagree, hw.limits, hw.database⟩

theorem clearReport_congr (h : OutputsIn dir job) (hw : SameForJob dir job w w') :
    (clearReport job w').1 = (clearReport job w).1 ∧
      SameForJob dir job (clearReport job w).2 (clearReport job w').2 := by
  rw [clearReport_of_outputs h, clearReport_of_outputs h, hw.limits]
  exact reviseThen_congr (isName_report job) (by simp [outputNames]) _ _ _ hw

theorem saveRecord_congr (h : OutputsIn dir job) (hw : SameForJob dir job w w')
    (record : Record) : (saveRecord job record w').1 = (saveRecord job record w).1 ∧
      SameForJob dir job (saveRecord job record w).2 (saveRecord job record w').2 := by
  rw [saveRecord_of_settled h hw.files.settled, saveRecord_of_settled h hw.files.settled',
    hw.limits]
  exact reviseThen_congr (isName_depFile job) (by simp [outputNames]) _ _ _ hw

theorem readReport_congr (h : OutputsIn dir job) (hw : SameForJob dir job w w') :
    (readReport s job w').1 = (readReport s job w).1 ∧
      SameForJob dir job (readReport s job w).2 (readReport s job w').2 := by
  have hread : w'.files.readText job.report = w.files.readText job.report := by
    rw [h.report]
    exact hw.files.readText (isName_report job) (by simp [outputNames])
  have hload : Report.load w'.files job.report job.source =
      Report.load w.files job.report job.source := by
    simp only [Report.load, hread]
  rw [readReport, readReport, hload]
  cases Report.load w.files job.report job.source <;> exact ⟨rfl, hw⟩

theorem recordCompile_congr (hw : SameForJob dir job w w') :
    (recordCompile s job w').1 = (recordCompile s job w).1 ∧
      SameForJob dir job (recordCompile s job w).2 (recordCompile s job w').2 := by
  have hpath : w'.files.currentPath = w.files.currentPath := by
    simp only [FileSystem.currentPath, hw.files.current]
  refine ⟨rfl, hw.files, hw.limits, ?_⟩
  simp only [recordCompile, hpath]
  exact Database.map_about_record_self hw.database

theorem runThen_congr (h : OutputsIn dir job) {c : Command}
    (hc : runner.Confined c [job.object, job.report]) (next : ToolOutput → Progress)
    (hw : SameForJob dir job w w') :
    (runThen runner job c next w').1 = (runThen runner job c next w).1 ∧
      SameForJob dir job (runThen runner job c next w).2 (runThen runner job c next w').2 := by
  obtain ⟨answer, touches, hpaths, hcall⟩ := hc.call
  constructor
  · simp only [runThen, runTool, (hcall w).1, (hcall w').1]
    cases answer.bind _ <;> rfl
  · rw [snd_runThen, snd_runThen]
    refine ⟨?_, hw.limits, hw.database⟩
    rw [(hcall w).2, (hcall w').2]
    exact hw.files.touchAll (h.touchesIn hpaths)

/-- **A step of a compile does the same in workshops that are the same for it.** -/
theorem step_congr (h : OutputsIn dir job)
    (htools : ∀ c ∈ pipeline s job, runner.Confined c [job.object, job.report])
    (hp : InPipeline s job p) (hw : SameForJob dir job w w') :
    (step s runner job p w').1 = (step s runner job p w).1 ∧
      SameForJob dir job (step s runner job p w).2 (step s runner job p w').2 := by
  cases p with
  | start =>
    rw [step_start_of_settled h hw.files.settled, step_start_of_settled h hw.files.settled']
    exact ⟨rfl, hw⟩
  | placesReady =>
    cases htool : ownTool? s job with
    | none =>
      rw [step_placesReady_of_none htool, step_placesReady_of_none htool]
      exact clearReport_congr h hw
    | some tool =>
      obtain ⟨marker, own⟩ := tool
      rw [step_placesReady_of_some htool, step_placesReady_of_some htool]
      refine runThen_congr h (htools _ ?_) _ hw
      rw [(ownTool?_eq_some htool).2]
      exact List.mem_cons_self
  | reportCleared =>
    refine runThen_congr h (htools _ ?_) _ hw
    rw [(ownTool?_eq_none (hp rfl)).2]
    exact List.mem_cons_self
  | objectMade => exact recordCompile_congr hw
  | entryRecorded => exact readReport_congr h hw
  | preprocessed record =>
    cases htool : ownTool? s job with
    | none =>
      rw [step_preprocessed_of_none htool, step_preprocessed_of_none htool]
      exact ⟨rfl, hw⟩
    | some tool =>
      obtain ⟨marker, own⟩ := tool
      rw [step_preprocessed_of_some htool, step_preprocessed_of_some htool]
      refine runThen_congr h (htools _ ?_) _ hw
      rw [(ownTool?_eq_some htool).2]
      exact List.mem_cons_of_mem _ List.mem_cons_self
  | headersKnown record => exact saveRecord_congr h hw record
  | finished result => exact ⟨rfl, hw⟩

/-! ### From outside -/

theorem reviseThen_frame {name : String} (hname : IsName name) (hmem : name ∉ names)
    {op : Operation} {refused : SystemError → Progress} {next : Progress}
    (hs : Settled dir w.files) :
    SameFor dir names file w (reviseThen dir name op refused next w).2 := by
  have hagree := FileSystem.agreeOn_revise hs hname hmem op
  unfold reviseThen
  rcases hrevise : w.files.revise (dir.join ⟨name⟩) op with ⟨_ | _, left⟩
  all_goals
    rw [hrevise] at hagree
    exact ⟨hagree, rfl, rfl⟩

/-- **A step of a compile is nothing to those apart from it.** -/
theorem step_frame (h : OutputsIn dir job)
    (htools : ∀ c ∈ pipeline s job, runner.Confined c [job.object, job.report])
    (hp : InPipeline s job p) (hapart : Apart job names file)
    (hs : Settled dir w.files) : SameFor dir names file w (step s runner job p w).2 := by
  have hrun : ∀ {c : Command} {next : ToolOutput → Progress}, c ∈ pipeline s job →
      SameFor dir names file w (runThen runner job c next w).2 := by
    intro c next hc
    obtain ⟨answer, touches, hpaths, hcall⟩ := (htools c hc).call
    rw [snd_runThen]
    refine ⟨?_, rfl, rfl⟩
    rw [(hcall w).2]
    exact FileSystem.agreeOn_touchAll hs (h.touchesIn hpaths) hapart.outputs
  cases p with
  | start =>
    rw [step_start_of_settled h hs]
    exact .refl hs
  | placesReady =>
    cases htool : ownTool? s job with
    | none =>
      rw [step_placesReady_of_none htool, clearReport_of_outputs h]
      exact reviseThen_frame (isName_report job) (hapart.outputs _ (by simp [outputNames])) hs
    | some tool =>
      obtain ⟨marker, own⟩ := tool
      rw [step_placesReady_of_some htool]
      exact hrun (by simp [(ownTool?_eq_some htool).2])
  | reportCleared => exact hrun (by simp [(ownTool?_eq_none (hp rfl)).2])
  | objectMade => exact ⟨.refl hs, rfl, Database.map_about_record_of_ne _ hapart.source⟩
  | entryRecorded =>
    show SameFor dir names file w (readReport s job w).2
    unfold readReport
    split <;> exact .refl hs
  | preprocessed record =>
    cases htool : ownTool? s job with
    | none =>
      rw [step_preprocessed_of_none htool]
      exact .refl hs
    | some tool =>
      obtain ⟨marker, own⟩ := tool
      rw [step_preprocessed_of_some htool]
      exact hrun (by simp [(ownTool?_eq_some htool).2])
  | headersKnown record =>
    show SameFor dir names file w (saveRecord job record w).2
    rw [saveRecord_of_settled h hs]
    exact reviseThen_frame (isName_depFile job) (hapart.outputs _ (by simp [outputNames])) hs
  | finished result => exact .refl hs

/-! ## Whole compiles -/

/-- **A compile does the same in workshops that are the same for it.** -/
theorem finish_congr (h : OutputsIn dir job)
    (htools : ∀ c ∈ pipeline s job, runner.Confined c [job.object, job.report])
    (hp : InPipeline s job p) (hw : SameForJob dir job w w') :
    (finish s runner job p w').1 = (finish s runner job p w).1 ∧
      SameForJob dir job (finish s runner job p w).2 (finish s runner job p w').2 := by
  have hstep : ∀ p w w', InPipeline s job p ∧ SameForJob dir job w w' →
      (step s runner job p w').1 = (step s runner job p w).1 ∧
      InPipeline s job (step s runner job p w).1 ∧
      SameForJob dir job (step s runner job p w).2 (step s runner job p w').2 := by
    rintro p w w' ⟨hp, hw⟩
    obtain ⟨hprogress, hsame⟩ := step_congr h htools hp hw
    exact ⟨hprogress, inPipeline_step s runner job p w, hsame⟩
  obtain ⟨hresult, -, hsame⟩ := finish_alongside hstep ⟨hp, hw⟩
  exact ⟨hresult, hsame⟩

/-- **A compile is nothing to those apart from it.** -/
theorem finish_frame (h : OutputsIn dir job)
    (htools : ∀ c ∈ pipeline s job, runner.Confined c [job.object, job.report])
    (hp : InPipeline s job p) (hapart : Apart job names file)
    (hs : Settled dir w.files) : SameFor dir names file w (finish s runner job p w).2 := by
  have hstep : ∀ p left, InPipeline s job p ∧ SameFor dir names file w left →
      InPipeline s job (step s runner job p left).1 ∧
      SameFor dir names file w (step s runner job p left).2 := by
    rintro p left ⟨hp, hsame⟩
    exact ⟨inPipeline_step s runner job p left,
      hsame.trans (step_frame h htools hp hapart hsame.files.settled')⟩
  exact (finish_keeps hstep ⟨hp, .refl hs⟩).2

end Clinker.Compile

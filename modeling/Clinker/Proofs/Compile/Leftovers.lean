import Clinker.Proofs.Compile.DependencyFile
import Clinker.Proofs.Workshop.Blind

/-!
# What earlier compiles left makes no difference

A compile with tools that do not look at files does the same whether or not there is a report or a
dependency file of an earlier compile, and whatever is in them, if the system lets them be replaced
(`Replaceable`). The two runs agree off the locations where the leftovers are. Before the compiler
of an ordinary source runs, its report is removed, and from there until the report is read the runs
agree on it as well (`Matched`). Each step keeps the runs in agreement (`step_matched`), so they
come to the same result (`finish_matched`), and what a successful one writes to the dependency file
is known from it.
-/

namespace Clinker.Compile

open Clinker.Path (IsName)
open Dependency (Record Report)
open FileSystem (AgreeOff KeepsOff)
open Link (sampleSession)

variable {σ : Type} {s : Session} {runner : ToolRunner σ} {job : CompileJob} {dir : Path}
  {name : String} {hidden : Set Location} {fs fs' : FileSystem} {limits : Limits}
  {before w w' : Workshop σ} {p : Progress}

/-! ## Two runs -/

/-- The system lets what a job has left be replaced: an earlier report can be removed, and an
earlier dependency file can be written where one could be made. -/
structure Replaceable (job : CompileJob) (w : Workshop σ) : Prop where
  report : job.kind = .ordinary → w.limits.remove (w.files.place job.report) = none
  depFile : w.limits.overwrite (w.files.place job.depFile) =
    w.limits.create (w.files.place job.depFile)

/-- Where the leftovers of a job are: its dependency file is some name in a folder, and neither its
object nor its dependency file has one of the locations on its way. -/
structure LeftoversAt (dir : Path) (name : String) (hidden : Set Location) (before : Workshop σ)
    (job : CompileJob) : Prop where
  isName : IsName name
  depFile : job.depFile = dir.join ⟨name⟩
  object : ∀ loc ∈ before.files.passed job.object, loc ∉ hidden
  folder : KeepsOff hidden before.files dir
  replaceable : Replaceable job before

/-- Two workshops are the same but for what is at some locations. -/
structure SameOff (hidden : Set Location) (before w w' : Workshop σ) : Prop where
  files : AgreeOff hidden w.files w'.files
  current : w.files.current = before.files.current
  limits : w.limits = before.limits
  limits' : w'.limits = before.limits
  memory : w'.memory = w.memory
  calls : w'.calls = w.calls
  database : w'.database = w.database

/-- What two runs have in common when they have come to some point. They agree off the leftovers,
and on the report as well from its removal to its reading. Before that the report can be removed
where it has been left. -/
def Matched (hidden : Set Location) (before : Workshop σ) (job : CompileJob)
    (w w' : Workshop σ) : Progress → Prop
  | .start | .placesReady => SameOff hidden before w w' ∧ (before.files.place job.report ∈ hidden →
      w.files.locate job.report = .ok (before.files.place job.report))
  | .reportCleared | .objectMade | .entryRecorded =>
    SameOff (hidden \ {before.files.place job.report}) before w w'
  | .preprocessed _ | .headersKnown _ | .finished _ => SameOff hidden before w w'

theorem SameOff.withFiles (h : SameOff hidden before w w') {more : Set Location}
    (hagree : AgreeOff more fs fs') (hcurrent : fs.current = before.files.current) :
    SameOff more before (w.withFiles fs) (w'.withFiles fs') :=
  ⟨hagree, hcurrent, h.limits, h.limits', h.memory, h.calls, h.database⟩

theorem SameOff.mono (h : SameOff hidden before w w') {more : Set Location}
    (hsub : hidden ⊆ more) : SameOff more before w w' :=
  ⟨h.files.mono hsub, h.current, h.limits, h.limits', h.memory, h.calls, h.database⟩

namespace LeftoversAt

theorem isName_report (h : LeftoversAt dir name hidden before job) : IsName (name ++ ".json") :=
  h.isName.append (by decide) (by decide)

theorem report (h : LeftoversAt dir name hidden before job) :
    job.report = dir.join ⟨name ++ ".json"⟩ := by
  rw [CompileJob.report, h.depFile, Path.suffixed_join h.isName h.isName_report]

theorem keepsOff (h : LeftoversAt dir name hidden before job)
    (hcurrent : fs.current = before.files.current) : KeepsOff hidden fs dir :=
  h.folder.of_current hcurrent

theorem passed (h : LeftoversAt dir name hidden before job)
    (hcurrent : fs.current = before.files.current) :
    ∀ p ∈ [job.object, job.depFile], ∀ loc ∈ fs.passed p, loc ∉ hidden := by
  intro p hp
  simp only [List.mem_cons, List.not_mem_nil, or_false] at hp
  rw [FileSystem.passed_congr hcurrent]
  obtain rfl | rfl := hp
  · exact h.object
  · rw [h.depFile]
    exact fun loc hloc => h.folder loc (FileSystem.passed_join_subset h.isName hloc)

end LeftoversAt

/-! ## Steps -/

theorem createPlaces_alike (limits : Limits) (paths : List Path) (h : AgreeOff hidden fs fs')
    (hpaths : ∀ p ∈ paths, ∀ loc ∈ fs.passed p, loc ∉ hidden) :
    (createPlaces limits paths fs').1 = (createPlaces limits paths fs).1 ∧
      AgreeOff hidden (createPlaces limits paths fs).2 (createPlaces limits paths fs').2 := by
  induction paths generalizing fs fs' with
  | nil => exact ⟨rfl, h⟩
  | cons p paths ih =>
    obtain ⟨hp, hrest⟩ := List.forall_mem_cons.1 hpaths
    obtain ⟨hresult, hagree⟩ := h.createParent limits hp
    have hcurrent := (FileSystem.grown_createParent fs p limits).current
    rw [createPlaces, createPlaces]
    rcases hcreate : fs.createParent p limits with ⟨result, made⟩
    rcases hcreate' : fs'.createParent p limits with ⟨result', made'⟩
    rw [hcreate, hcreate'] at hresult hagree
    rw [hcreate] at hcurrent
    obtain rfl : result' = result := hresult
    cases result' with
    | error e => exact ⟨rfl, hagree⟩
    | ok =>
      refine ih hagree fun q hq => ?_
      rw [FileSystem.passed_congr hcurrent]
      exact hrest q hq

theorem makePlaces_matched (hleft : LeftoversAt dir name hidden before job)
    (h : Matched hidden before job w w' .start) :
    (makePlaces job w').1 = (makePlaces job w).1 ∧
      Matched hidden before job (makePlaces job w).2 (makePlaces job w').2
        (makePlaces job w).1 := by
  obtain ⟨hstart, hremovable⟩ := h
  obtain ⟨hresult, hagree⟩ := createPlaces_alike before.limits
    [job.object, job.depFile] hstart.files (hleft.passed hstart.current)
  have hgrown := grown_createPlaces [job.object, job.depFile] w.files before.limits
  rw [makePlaces, makePlaces, hstart.limits, hstart.limits']
  rcases hcreate : createPlaces before.limits [job.object, job.depFile] w.files with
    ⟨result, files⟩
  rcases hcreate' : createPlaces before.limits [job.object, job.depFile] w'.files with
    ⟨result', files'⟩
  rw [hcreate, hcreate'] at hresult hagree
  rw [hcreate] at hgrown
  obtain rfl : result' = result := hresult
  have hsame := hstart.withFiles hagree (hgrown.current.trans hstart.current)
  cases result' with
  | error e => exact ⟨rfl, hsame⟩
  | ok => exact ⟨rfl, hsame, fun hmem => hgrown.keeps.locate (hremovable hmem)⟩

theorem clearReport_matched (hleft : LeftoversAt dir name hidden before job)
    (hkind : job.kind = .ordinary) (h : Matched hidden before job w w' .placesReady) :
    (clearReport job w').1 = (clearReport job w).1 ∧
      Matched hidden before job (clearReport job w).2 (clearReport job w').2
        (clearReport job w).1 := by
  obtain ⟨hready, hremovable⟩ := h
  have hremove : FileSystem.Alike (hidden \ {before.files.place job.report})
      (w.files.removeFileIfExists job.report before.limits)
      (w'.files.removeFileIfExists job.report before.limits) := by
    have hlimits := hleft.replaceable.report hkind
    have hplace := FileSystem.place_congr hready.current job.report
    rw [hleft.report] at hremovable hlimits hplace ⊢
    exact hready.files.removeFileIfExists (hleft.keepsOff hready.current) hleft.isName_report
      hlimits hplace hremovable
  rw [clearReport, clearReport, hready.limits, hready.limits']
  obtain ⟨e, he, he'⟩ | ⟨left, left', hok, hok', hagree⟩ := FileSystem.alike_cases hremove
  · rw [he, he']
    exact ⟨rfl, hready⟩
  · have hcurrent : left.current = w.files.current := by
      obtain ⟨rfl, -⟩ | ⟨loc, -, -, -, -, rfl⟩ := FileSystem.removeFileIfExists_eq_ok hok
      · rfl
      · rfl
    rw [hok, hok']
    exact ⟨rfl, hready.withFiles hagree (hcurrent.trans hready.current)⟩

/-- **A call of a blind tool is answered the same in both runs.** -/
theorem runThen_matched {more : Set Location} {c : Command} {next : ToolOutput → Progress}
    (hc : runner.Blind c) (h : SameOff more before w w') (hmore : more ⊆ hidden)
    (hnext : ∀ output (w w' : Workshop σ), SameOff more before w w' →
      Matched hidden before job w w' (next output)) :
    (runThen runner job c next w').1 = (runThen runner job c next w).1 ∧
      Matched hidden before job (runThen runner job c next w).2 (runThen runner job c next w').2
        (runThen runner job c next w).1 := by
  obtain ⟨hanswer, hmemory, hcurrent, hagree⟩ := hc w.memory more w.files w'.files h.files
  have hcall : (w'.call runner c).1 = (w.call runner c).1 := by
    rw [Workshop.call, Workshop.call, h.memory]
    exact hanswer
  have hsame : SameOff more before (w.call runner c).2 (w'.call runner c).2 := by
    rw [Workshop.call, Workshop.call, h.memory]
    exact ⟨hagree, hcurrent.trans h.current, h.limits, h.limits', hmemory,
      by simp only [h.calls], h.database⟩
  constructor
  · simp only [runThen, runTool, hcall]
    cases (w.call runner c).1.bind _ <;> rfl
  · rw [snd_runThen runner job c next w']
    obtain ⟨_, -, hrun⟩ | ⟨_, -, -, hrun⟩ | ⟨output, -, -, hrun⟩ :=
      runThen_cases runner job c next w
    all_goals rw [hrun]
    · exact hsame.mono hmore
    · exact hsame.mono hmore
    · exact hnext output _ _ hsame

theorem readReport_matched (hleft : LeftoversAt dir name hidden before job)
    (h : Matched hidden before job w w' .entryRecorded) :
    (readReport s job w').1 = (readReport s job w).1 ∧
      Matched hidden before job (readReport s job w).2 (readReport s job w').2
        (readReport s job w).1 := by
  have hsame : SameOff hidden before w w' := SameOff.mono h Set.sdiff_subset
  have hread : w'.files.readText job.report = w.files.readText job.report := by
    have hplace : w.files.place (dir.join ⟨name ++ ".json"⟩) ∉
        hidden \ {before.files.place job.report} := by
      rw [← hleft.report, FileSystem.place_congr h.current]
      exact fun hmem => hmem.2 rfl
    rw [hleft.report]
    exact h.files.readText ((hleft.keepsOff h.current).mono Set.sdiff_subset)
      hleft.isName_report hplace
  have hload : Report.load w'.files job.report job.source =
      Report.load w.files job.report job.source := by
    simp only [Report.load, hread]
  rw [readReport, readReport, hload]
  cases Report.load w.files job.report job.source <;> exact ⟨rfl, hsame⟩

theorem saveRecord_matched (hleft : LeftoversAt dir name hidden before job)
    (h : SameOff hidden before w w') (record : Record) :
    (saveRecord job record w').1 = (saveRecord job record w).1 ∧
      SameOff hidden before (saveRecord job record w).2 (saveRecord job record w').2 := by
  obtain ⟨hresult, hagree⟩ := h.files.createParent before.limits
    (hleft.passed h.current job.depFile (List.mem_cons_of_mem _ (List.mem_singleton_self _)))
  have hcurrent :=
    (FileSystem.grown_createParent w.files job.depFile before.limits).current.trans h.current
  rw [saveRecord, saveRecord, Record.save, Record.save, h.limits, h.limits']
  rcases hcreate : w.files.createParent job.depFile before.limits with ⟨result, made⟩
  rcases hcreate' : w'.files.createParent job.depFile before.limits with ⟨result', made'⟩
  rw [hcreate, hcreate'] at hresult hagree
  rw [hcreate] at hcurrent
  obtain rfl : result' = result := hresult
  cases result' with
  | error e => exact ⟨rfl, h.withFiles hagree hcurrent⟩
  | ok =>
    have hkeeps := FileSystem.keeps_revise made (dir.join ⟨name⟩)
      (.writing record.makefile.toUTF8 before.limits)
    have hwrite := hleft.replaceable.depFile
    rw [← FileSystem.place_congr hcurrent, hleft.depFile] at hwrite
    rw [FileSystem.revise_writing hleft.isName] at hkeeps
    rw [hleft.depFile]
    simp only [FileSystem.writeText]
    obtain ⟨e, left, left', he, he', hagree'⟩ | ⟨left, left', hok, hok', hagree'⟩ :=
      FileSystem.AgreeOff.writeBytes hagree (hleft.keepsOff hcurrent) hleft.isName hwrite
    · rw [he] at hkeeps ⊢
      rw [he']
      exact ⟨rfl, h.withFiles hagree' (hkeeps.current.trans hcurrent)⟩
    · rw [hok] at hkeeps ⊢
      rw [hok']
      exact ⟨rfl, h.withFiles hagree' (hkeeps.current.trans hcurrent)⟩

/-- **Each step keeps two runs in agreement.** -/
theorem step_matched (hleft : LeftoversAt dir name hidden before job)
    (htools : ∀ c ∈ pipeline s job, runner.Blind c) (hp : InPipeline s job p)
    (h : Matched hidden before job w w' p) :
    (step s runner job p w').1 = (step s runner job p w).1 ∧
      Matched hidden before job (step s runner job p w).2 (step s runner job p w').2
        (step s runner job p w).1 := by
  cases p with
  | start => exact makePlaces_matched hleft h
  | placesReady =>
    cases htool : ownTool? s job with
    | none =>
      rw [step_placesReady_of_none htool, step_placesReady_of_none htool]
      exact clearReport_matched hleft (ownTool?_eq_none htool).1 h
    | some tool =>
      obtain ⟨marker, own⟩ := tool
      rw [step_placesReady_of_some htool, step_placesReady_of_some htool]
      exact runThen_matched (htools _ (by simp [(ownTool?_eq_some htool).2])) h.1 subset_rfl
        fun _ _ _ hsame => hsame
  | reportCleared =>
    exact runThen_matched (htools _ (by simp [(ownTool?_eq_none (hp rfl)).2])) h Set.sdiff_subset
      fun _ _ _ hsame => hsame
  | objectMade =>
    have hentry : entryFor s job w'.files = entryFor s job w.files := by
      rw [entryFor, entryFor, FileSystem.currentPath, FileSystem.currentPath, h.files.current]
    refine ⟨rfl, h.files, h.current, h.limits, h.limits', h.memory, h.calls, ?_⟩
    show w'.database.map (·.record (entryFor s job w'.files)) =
      w.database.map (·.record (entryFor s job w.files))
    rw [hentry, h.database]
  | entryRecorded => exact readReport_matched hleft h
  | preprocessed record =>
    cases htool : ownTool? s job with
    | none =>
      rw [step_preprocessed_of_none htool, step_preprocessed_of_none htool]
      exact ⟨rfl, h⟩
    | some tool =>
      obtain ⟨marker, own⟩ := tool
      rw [step_preprocessed_of_some htool, step_preprocessed_of_some htool]
      exact runThen_matched (htools _ (by simp [(ownTool?_eq_some htool).2])) h subset_rfl
        fun _ _ _ hsame => hsame
  | headersKnown record =>
    obtain ⟨hprogress, hsame⟩ := saveRecord_matched hleft h record
    refine ⟨hprogress, ?_⟩
    obtain ⟨result, files, hsave, -⟩ := saveRecord_cases job record w
    show Matched hidden before job (saveRecord job record w).2 (saveRecord job record w').2
      (saveRecord job record w).1
    rw [hsave] at hsame ⊢
    exact hsame
  | finished result => exact ⟨rfl, h⟩

/-! ## Whole compiles -/

/-- **Two runs come to the same end.** -/
theorem finish_matched (hleft : LeftoversAt dir name hidden before job)
    (htools : ∀ c ∈ pipeline s job, runner.Blind c) (hp : InPipeline s job p)
    (h : Matched hidden before job w w' p) :
    (finish s runner job p w').1 = (finish s runner job p w).1 ∧
      SameOff hidden before (finish s runner job p w).2 (finish s runner job p w').2 := by
  have hstep : ∀ p w w', InPipeline s job p ∧ Matched hidden before job w w' p →
      (step s runner job p w').1 = (step s runner job p w).1 ∧
      InPipeline s job (step s runner job p w).1 ∧
      Matched hidden before job (step s runner job p w).2 (step s runner job p w').2
        (step s runner job p w).1 := by
    rintro p w w' ⟨hp, h⟩
    obtain ⟨hprogress, hmatched⟩ := step_matched hleft htools hp h
    exact ⟨hprogress, inPipeline_step s runner job p w, hmatched⟩
  obtain ⟨hresult, -, hmatched⟩ := finish_alongside hstep ⟨hp, h⟩
  exact ⟨hresult, hmatched⟩

/-! ## A report that is missing -/

/-- What was removed cannot be read. -/
theorem not_hasReport_of_removed (h : fs.removeFileIfExists job.report limits = .ok fs') :
    ¬ HasReport fs' job := by
  rintro ⟨text, report, htext, -⟩
  have hgone := FileSystem.readBytes_of_removed h
  simp [FileSystem.readText, hgone, bind, Except.bind] at htext

/-- What is known of an ordinary source whose compiler succeeds and makes no report, when its compile
has come to some point: there has been no call yet, or there is no report. -/
def Missing (job : CompileJob) (memory : σ) (calls : List Command) (w : Workshop σ) :
    Progress → Prop
  | .start | .placesReady => w.memory = memory ∧ w.calls = calls
  | .reportCleared => w.memory = memory ∧ w.calls = calls ∧ ¬ HasReport w.files job
  | .objectMade | .entryRecorded => ¬ HasReport w.files job
  | .preprocessed _ | .headersKnown _ => False
  | .finished result => w.calls = calls ∨
      ∃ reason, result = .error (.reportUnusable job.source job.report reason)

section Missing

variable {memory : σ} {calls : List Command}

theorem step_missing (htool : ownTool? s job = none)
    (hanswer : ∀ files, ∃ output,
      (runner.run (sourceCommand s job) memory files).1 = .ok output ∧ output.code = some 0)
    (hmissing : ∀ files, ¬ HasReport files job →
      ¬ HasReport (runner.run (sourceCommand s job) memory files).2.2 job)
    (h : Missing job memory calls w p) :
    Missing job memory calls (step s runner job p w).2 (step s runner job p w).1 := by
  cases p with
  | start =>
    show Missing job memory calls (makePlaces job w).2 (makePlaces job w).1
    obtain ⟨files, ⟨path, cause, hplaces⟩ | hplaces⟩ := makePlaces_cases job w
    · rw [hplaces]
      exact .inl h.2
    · rw [hplaces]
      exact h
  | placesReady =>
    rw [step_placesReady_of_none htool, clearReport]
    cases hremove : w.files.removeFileIfExists job.report w.limits with
    | error e => exact .inl h.2
    | ok files => exact ⟨h.1, h.2, not_hasReport_of_removed hremove⟩
  | reportCleared =>
    obtain ⟨rfl, -, hcleared⟩ := h
    obtain ⟨output, houtput, hcode⟩ := hanswer w.files
    show Missing job w.memory calls (runThen runner job (sourceCommand s job) _ w).2
      (runThen runner job (sourceCommand s job) _ w).1
    obtain ⟨e, he, -⟩ | ⟨other, hother, hne, -⟩ | ⟨_, -, -, hrun⟩ :=
      runThen_cases runner job (sourceCommand s job) (fun _ => .objectMade) w
    · cases he.symm.trans houtput
    · cases hother.symm.trans houtput
      exact absurd hcode hne
    · rw [hrun]
      exact hmissing w.files hcleared
  | objectMade => exact h
  | entryRecorded =>
    show Missing job memory calls (readReport s job w).2 (readReport s job w).1
    obtain ⟨-, reason, hread⟩ | ⟨hreport, -⟩ := readReport_cases s job w
    · rw [hread]
      exact .inr ⟨reason, rfl⟩
    · exact absurd hreport h
  | preprocessed record => exact h.elim
  | headersKnown record => exact h.elim
  | finished result => exact h

theorem finish_missing (htool : ownTool? s job = none)
    (hanswer : ∀ files, ∃ output,
      (runner.run (sourceCommand s job) memory files).1 = .ok output ∧ output.code = some 0)
    (hmissing : ∀ files, ¬ HasReport files job →
      ¬ HasReport (runner.run (sourceCommand s job) memory files).2.2 job)
    (h : Missing job memory calls w p) :
    Missing job memory calls (finish s runner job p w).2
      (.finished (finish s runner job p w).1) :=
  finish_keeps (P := fun p w => Missing job memory calls w p)
    (fun _ _ => step_missing htool hanswer hmissing) h

end Missing

/-- **A compiler that succeeds and makes no report leaves the headers unknown**, if it is called. -/
theorem compile_of_missing {arch : Architecture} (hkind : job.kind = .ordinary)
    (hanswer : ∀ files, ∃ output,
      (runner.run (sourceCommand s job) w.memory files).1 = .ok output ∧ output.code = some 0)
    (hmissing : ∀ files, ¬ HasReport files job →
      ¬ HasReport (runner.run (sourceCommand s job) w.memory files).2.2 job)
    (hcalled : (compile s runner arch job w).2.calls ≠ w.calls) :
    ∃ reason, (compile s runner arch job w).1 =
      .error (.reportUnusable job.source job.report reason) := by
  have htool : ownTool? s job = none :=
    Option.eq_none_iff_forall_ne_some.2 fun tool h => (ownTool?_eq_some h).1 hkind
  rw [compile] at hcalled ⊢
  cases hcheck : s.checkArchitecture arch with
  | error e =>
    rw [hcheck] at hcalled
    exact absurd rfl hcalled
  | ok =>
    rw [hcheck] at hcalled
    have hstart : Missing job w.memory w.calls w .start := ⟨rfl, rfl⟩
    exact (finish_missing htool hanswer hmissing hstart).resolve_left hcalled

/-! ## Leftovers -/

/-- Two file systems are the same but for files at some paths: there may be a file in one of them
and nothing or another file in the other. -/
structure SameButFiles (paths : List Path) (fs fs' : FileSystem) : Prop where
  current : fs'.current = fs.current
  lookup? : ∀ loc, fs'.lookup? loc = fs.lookup? loc ∨
    (∃ p ∈ paths, fs.locate p = .ok loc) ∧
      fs.lookup? loc ≠ some .directory ∧ fs'.lookup? loc ≠ some .directory

theorem SameButFiles.agreeOff {paths : List Path} (h : SameButFiles paths fs fs') :
    AgreeOff {loc | fs'.lookup? loc ≠ fs.lookup? loc} fs fs' := by
  refine ⟨h.current, fun loc hloc => not_not.1 hloc, fun loc => ?_⟩
  obtain heq | ⟨-, hfree, hfree'⟩ := h.lookup? loc
  · rw [heq]
  · exact iff_of_false hfree' hfree

/-- Where leftovers can be, a path keeps off them. -/
theorem leftoversAt_of_sameButFiles (hname : IsName name) (hdep : job.depFile = dir.join ⟨name⟩)
    (hreplace : Replaceable job w) (hdiffer : SameButFiles [job.report, job.depFile] w.files fs')
    (hpath : ∀ p ∈ [job.report, job.depFile], w.files.place p ∉ w.files.passed job.object) :
    LeftoversAt dir name {loc | fs'.lookup? loc ≠ w.files.lookup? loc} w job := by
  have hreport : job.report = dir.join ⟨name ++ ".json"⟩ := by
    rw [CompileJob.report, hdep, Path.suffixed_join hname (hname.append (by decide) (by decide))]
  refine ⟨hname, hdep, fun loc hloc hmem => ?_, fun loc hloc hmem => ?_, hreplace⟩
  · obtain ⟨⟨p, hp, hlocate⟩, -, -⟩ := (hdiffer.lookup? loc).resolve_left hmem
    rw [← FileSystem.place_of_locate hlocate] at hloc
    exact hpath p hp hloc
  · obtain ⟨⟨p, hp, hlocate⟩, hfree, -⟩ := (hdiffer.lookup? loc).resolve_left hmem
    obtain ⟨base, hbase⟩ : ∃ base, w.files.home dir = .ok base := by
      simp only [List.mem_cons, List.not_mem_nil, or_false] at hp
      obtain rfl | rfl := hp
      · rw [hreport, FileSystem.locate_join (hname.append (by decide) (by decide))] at hlocate
        exact (FileSystem.placeIn_eq_ok hlocate).imp fun _ h => h.1
      · rw [hdep, FileSystem.locate_join hname] at hlocate
        exact (FileSystem.placeIn_eq_ok hlocate).imp fun _ h => h.1
    exact hfree (FileSystem.lookup?_of_home hbase hloc)

/-- **What earlier compiles left makes no difference.** Let two file systems be the same but for
files at the places of the report and the dependency file of a job, let the system allow these to be
replaced, let the dependency file be asked for by a name, and let its object have neither place on
its way. Tools that do not look at files are then called the same in both, the result is the same,
and so is the dependency file after a success. In particular, if the compiler of an ordinary source
is called, succeeds and makes no report, then the headers are unknown, whatever report was there
before. -/
theorem compile_sameButFiles (s : Session) (runner : ToolRunner σ) (arch : Architecture)
    (job : CompileJob) (w : Workshop σ) (files : FileSystem)
    (hname : FileSystem.endsInName job.depFile = true)
    (hsep : job.depFile.endsInSeparator = false) (hreplace : Replaceable job w)
    (hpath : ∀ p ∈ [job.report, job.depFile], w.files.place p ∉ w.files.passed job.object)
    (hdiffer : SameButFiles [job.report, job.depFile] w.files files)
    (htools : ∀ c ∈ pipeline s job, runner.Blind c) :
    (compile s runner arch job (w.withFiles files)).2.calls =
      (compile s runner arch job w).2.calls ∧
    (compile s runner arch job (w.withFiles files)).1 = (compile s runner arch job w).1 ∧
    (∀ record, (compile s runner arch job w).1 = .ok record →
      (compile s runner arch job (w.withFiles files)).2.files.readText job.depFile =
        (compile s runner arch job w).2.files.readText job.depFile) ∧
    (job.kind = .ordinary →
      (∀ files, ∃ output,
        (runner.run (sourceCommand s job) w.memory files).1 = .ok output ∧
          output.code = some 0) →
      (∀ files, ¬ HasReport files job →
        ¬ HasReport (runner.run (sourceCommand s job) w.memory files).2.2 job) →
      (compile s runner arch job w).2.calls ≠ w.calls →
      ∃ reason, (compile s runner arch job w).1 =
        .error (.reportUnusable job.source job.report reason)) := by
  obtain ⟨dir, name, hisName, hdep⟩ := FileSystem.exists_join_of_endsInName hname hsep
  have hleft := leftoversAt_of_sameButFiles hisName hdep hreplace hdiffer hpath
  have hremovable : w.files.place job.report ∈
      {loc | files.lookup? loc ≠ w.files.lookup? loc} →
      w.files.locate job.report = .ok (w.files.place job.report) := by
    intro hmem
    obtain ⟨⟨p, hp, hlocate⟩, -, -⟩ := (hdiffer.lookup? _).resolve_left hmem
    simp only [List.mem_cons, List.not_mem_nil, or_false] at hp
    obtain rfl | rfl := hp
    · exact hlocate
    · exact absurd (FileSystem.place_of_locate hlocate).symm (place_report_ne job w.files)
  have hsame : (compile s runner arch job (w.withFiles files)).1 =
        (compile s runner arch job w).1 ∧
      (compile s runner arch job (w.withFiles files)).2.calls =
        (compile s runner arch job w).2.calls := by
    rw [compile, compile]
    cases s.checkArchitecture arch with
    | error e => exact ⟨rfl, rfl⟩
    | ok =>
      have hstart : SameOff {loc | files.lookup? loc ≠ w.files.lookup? loc} w w
          (w.withFiles files) := ⟨hdiffer.agreeOff, rfl, rfl, rfl, rfl, rfl, rfl⟩
      obtain ⟨hresult, hmatched⟩ :=
        finish_matched hleft htools inPipeline_start ⟨hstart, hremovable⟩
      exact ⟨hresult, hmatched.calls⟩
  refine ⟨hsame.2, hsame.1, fun record hrecord => ?_, compile_of_missing⟩
  rw [(written_of_compile hrecord).content,
    (written_of_compile (hsame.1.trans hrecord)).content]

/-! ### Leftovers in a folder and on the way -/

theorem sameButFiles_set {paths : List Path} {q : Path} {loc : Location} (hq : q ∈ paths)
    (hloc : fs.locate q = .ok loc) (hfree : fs.lookup? loc ≠ some .directory)
    (content : ByteArray) (executable : Bool) :
    SameButFiles paths fs (fs.set loc (.file content executable)) := by
  refine ⟨rfl, fun other => ?_⟩
  by_cases heq : other = loc
  · subst heq
    refine .inr ⟨⟨q, hq, hloc⟩, hfree, ?_⟩
    rw [FileSystem.lookup?_set_self fs (FileSystem.ne_nil_of_lookup? hfree)]
    nofun
  · exact .inl (FileSystem.lookup?_set_of_ne fs heq _)

/-- An ordinary source with its outputs in the folder `out`. -/
def sourceJob : CompileJob :=
  { scriptJob with source := ⟨"a.cpp"⟩, object := ⟨"out/a.obj"⟩, depFile := ⟨"out/a.obj.d"⟩ }

/-- The folder `out` without anything in it. -/
def freshFolder : Workshop Unit := .start ⟨[(["out"], .directory)], []⟩ () none

/-- The same folder with the report of an earlier compile. -/
def staleReport : FileSystem := freshFolder.files.set ["out", "a.obj.d.json"]
  (.file "[]".toUTF8 false)

theorem sameButFiles_staleReport :
    SameButFiles [sourceJob.report, sourceJob.depFile] freshFolder.files staleReport :=
  sameButFiles_set List.mem_cons_self rfl (fun h => by cases h) _ _

theorem compile_sameButFiles_staleReport :
    SameButFiles [sourceJob.report, sourceJob.depFile] freshFolder.files staleReport ∧
    Replaceable sourceJob freshFolder ∧
    (∀ c ∈ pipeline sampleSession sourceJob, quietTools.Blind c) ∧
    ∃ reason,
      (compile sampleSession quietTools .x64 sourceJob (freshFolder.withFiles staleReport)).1 =
        .error (.reportUnusable ⟨"a.cpp"⟩ ⟨"out/a.obj.d.json"⟩ reason) := by
  have hreplace : Replaceable sourceJob freshFolder := ⟨fun _ => rfl, rfl⟩
  have hblind : ∀ c ∈ pipeline sampleSession sourceJob, quietTools.Blind c :=
    fun c _ => ToolRunner.blind_scripted _ c
  obtain ⟨-, hresult, -, hmissing⟩ := compile_sameButFiles sampleSession quietTools .x64 sourceJob
    freshFolder staleReport (by decide +kernel) (by decide +kernel) hreplace (by decide +kernel)
    sameButFiles_staleReport hblind
  have hcalls : (compile sampleSession quietTools .x64 sourceJob freshFolder).2.calls ≠
      freshFolder.calls := by decide +kernel
  obtain ⟨reason, hreason⟩ := hmissing rfl (fun _ => ⟨_, rfl, rfl⟩) (fun _ h => h) hcalls
  exact ⟨sameButFiles_staleReport, hreplace, hblind, reason, hresult.trans hreason⟩

/-- The object is asked for through a report that an earlier compile may have left. -/
def crossedJob : CompileJob :=
  { scriptJob with object := ⟨"q/../o.json/../b.res"⟩, depFile := ⟨"o"⟩ }

/-- The dependency file of an earlier compile of the script. -/
def builtScript : FileSystem :=
  freshFolder.files.set ["out", "b.res.d"] (.file "old".toUTF8 false)

theorem sameButFiles_builtScript :
    SameButFiles [scriptJob.report, scriptJob.depFile] freshFolder.files builtScript :=
  sameButFiles_set (List.mem_cons_of_mem _ List.mem_cons_self) rfl (fun h => by cases h) _ _

/-- No file can be removed. -/
def unremovable : Workshop Unit :=
  { freshFolder with limits := { remove := fun _ => some "Permission denied (os error 13)" } }

/-- No file that is there can be written. -/
def unwritable : Workshop Unit :=
  { freshFolder with limits := { overwrite := fun _ => some "Permission denied (os error 13)" } }

/-- **Leftovers that are in the way make a difference.** Nothing is in the way of the object where
no report is, and its directories can be created; a report that was left is a file on the way, and
the compile is refused. So it is where a report that was left cannot be removed, or a dependency
file that was left cannot be written, while others can be made. -/
theorem compile_sameButFiles_inTheWay :
    (FileSystem.endsInName crossedJob.depFile = true ∧
      crossedJob.depFile.endsInSeparator = false ∧
      (∀ p ∈ [crossedJob.report, crossedJob.depFile], ¬ p.steps <+: crossedJob.object.steps) ∧
      SameButFiles [crossedJob.report, crossedJob.depFile] ⟨[], []⟩
        (FileSystem.set ⟨[], []⟩ ["o.json"] (.file "\x7b\x7d".toUTF8 false)) ∧
      (∀ c, quietTools.Blind c) ∧
      (compile sampleSession quietTools .x64 crossedJob (.start
        (FileSystem.set ⟨[], []⟩ ["o.json"] (.file "\x7b\x7d".toUTF8 false)) () none)).1 ≠
          (compile sampleSession quietTools .x64 crossedJob (.start ⟨[], []⟩ () none)).1) ∧
    (SameButFiles [sourceJob.report, sourceJob.depFile] unremovable.files staleReport ∧
      (compile sampleSession quietTools .x64 sourceJob (unremovable.withFiles staleReport)).1 ≠
        (compile sampleSession quietTools .x64 sourceJob unremovable).1) ∧
    SameButFiles [scriptJob.report, scriptJob.depFile] unwritable.files builtScript ∧
      (compile sampleSession quietTools .x64 scriptJob (unwritable.withFiles builtScript)).1 ≠
        (compile sampleSession quietTools .x64 scriptJob unwritable).1 := by
  have hcrossed : SameButFiles [crossedJob.report, crossedJob.depFile] ⟨[], []⟩
      (FileSystem.set ⟨[], []⟩ ["o.json"] (.file "\x7b\x7d".toUTF8 false)) :=
    sameButFiles_set List.mem_cons_self rfl (fun h => by cases h) _ _
  refine ⟨⟨by decide +kernel, by decide +kernel, by decide +kernel, hcrossed,
    fun c => ToolRunner.blind_scripted _ c, by decide +kernel⟩,
    ⟨sameButFiles_staleReport, by decide +kernel⟩, sameButFiles_builtScript, by decide +kernel⟩

end Clinker.Compile

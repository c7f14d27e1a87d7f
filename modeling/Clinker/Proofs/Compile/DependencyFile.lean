import Clinker.Proofs.Compile.Calls
import Clinker.Proofs.Link.ResponseFile
import Clinker.Proofs.Workshop.Confined

/-!
# The dependency file is written at the end or not at all

A compile that fails leaves the place of its dependency file as it was, and one that succeeds
leaves there what its record says. The file is written by the last step, which is the only one that
succeeds (`step_eq_ok`), and no other step touches it (`step_kept`). Two things can come in between.
If nothing is at the place and an output has it on its way, a directory is made there (`OffTheWay`).
And the write of the record may itself break off: the file was emptied when it was opened, and then
there is no room for all of the record (`BrokenOff`).
-/

namespace Clinker.Compile

open Dependency (Record Report)
open FileSystem (Grown SameAt)
open Link (sampleSession)

variable {σ : Type} {s : Session} {runner : ToolRunner σ} {job : CompileJob}
  {files files' : FileSystem} {limits : Limits} {before w : Workshop σ} {p : Progress}

/-- Either something is at the place of the dependency file, or no output has this place on its
way, so that no directory is made there. -/
def OffTheWay (job : CompileJob) (files : FileSystem) : Prop :=
  files.lookup? (files.place job.depFile) = none →
    ∀ p ∈ [job.object, job.depFile], files.place job.depFile ∉ files.passed p

/-- The dependency file says what a record says, and the directories it lies in are there. -/
structure Written (job : CompileJob) (record : Record) (files : FileSystem) : Prop where
  content : files.readText job.depFile = .ok record.makefile
  directories : ∀ q, job.depFile.writtenParent? = some q → ∀ d ∈ q.lineage,
    files.isDirectory d = true

/-- There was no room for all of a record of the job: the dependency file holds the beginning of the
record's text, and the error says that it could not be written. -/
def BrokenOff (job : CompileJob) (before : Workshop σ) (e : BuildError) (files : FileSystem) :
    Prop :=
  ∃ (record : Record) (bytes : Nat) (why : String),
    record.source = job.source ∧ record.object = job.object ∧
    before.limits.room (before.files.place job.depFile) = some (bytes, why) ∧
    bytes < record.makefile.toUTF8.size ∧ e = .fileAccess job.depFile (.other why) ∧
    files.readBytes job.depFile = .ok (record.makefile.toUTF8.extract 0 bytes)

/-- Until a compile has succeeded, the place of its dependency file is as it was, or the write of
its record has broken off. -/
def Kept (job : CompileJob) (before w : Workshop σ) : Progress → Prop
  | .finished (.ok _) => True
  | .finished (.error e) =>
    SameAt job.depFile before.files w.files ∨ BrokenOff job before e w.files
  | _ => SameAt job.depFile before.files w.files

theorem OffTheWay.of_sameAt (h : OffTheWay job files) (hsame : SameAt job.depFile files files') :
    OffTheWay job files' := by
  unfold OffTheWay at *
  rw [FileSystem.place_congr hsame.current, hsame.lookup?]
  simpa only [FileSystem.passed_congr hsame.current] using h

/-! ## A success -/

/-- **Only the last step succeeds.** -/
theorem step_eq_ok {record : Record} (h : (step s runner job p w).1 = .finished (.ok record)) :
    p = .finished (.ok record) ∨ p = .headersKnown record := by
  have hrun : ∀ {c : Command} {next : ToolOutput → Progress},
      (∀ output, next output ≠ .finished (.ok record)) →
      (runThen runner job c next w).1 ≠ .finished (.ok record) := by
    intro c next hnext
    obtain ⟨e, hrun⟩ | ⟨output, hrun⟩ := fst_runThen runner job c next w
    all_goals rw [hrun]
    · nofun
    · exact hnext output
  cases p with
  | start =>
    change (makePlaces job w).1 = _ at h
    obtain ⟨files, ⟨path, cause, hplaces⟩ | hplaces⟩ := makePlaces_cases job w
    all_goals
      rw [hplaces] at h
      cases h
  | placesReady =>
    cases htool : ownTool? s job with
    | none =>
      rw [step_placesReady_of_none htool] at h
      obtain ⟨path, cause, hclear⟩ | ⟨files, hclear⟩ := clearReport_cases job w
      all_goals
        rw [hclear] at h
        cases h
    | some tool =>
      obtain ⟨marker, own⟩ := tool
      rw [step_placesReady_of_some htool] at h
      exact absurd h (hrun nofun)
  | reportCleared => exact absurd h (hrun nofun)
  | objectMade => cases h
  | entryRecorded =>
    change (readReport s job w).1 = _ at h
    obtain ⟨-, reason, hread⟩ | ⟨-, found, hread⟩ := readReport_cases s job w
    all_goals
      rw [hread] at h
      cases h
  | preprocessed found =>
    cases htool : ownTool? s job with
    | none =>
      rw [step_preprocessed_of_none htool] at h
      cases h
    | some tool =>
      obtain ⟨marker, own⟩ := tool
      rw [step_preprocessed_of_some htool] at h
      exact absurd h (hrun nofun)
  | headersKnown found =>
    change (saveRecord job found w).1 = _ at h
    rw [saveRecord] at h
    rcases hsave : found.save w.files job.depFile w.limits with ⟨_ | _, files⟩
    all_goals
      rw [hsave] at h
      cases h
    exact .inr rfl
  | finished result => exact .inl h

/-- A record that was saved is written. -/
theorem written_of_save {record : Record}
    (h : record.save files job.depFile limits = (.ok (), files')) : Written job record files' := by
  rw [Record.save] at h
  rcases hcreate : files.createParent job.depFile limits with ⟨_ | _, made⟩
  · simp [hcreate] at h
  · rw [hcreate] at h
    cases hwrite : made.writeText job.depFile record.makefile limits with
    | error cause => simp [hwrite] at h
    | ok written =>
      simp only [hwrite, Prod.mk.injEq, true_and] at h
      subst h
      refine ⟨FileSystem.readText_of_writeText hwrite, fun q hq d hd => ?_⟩
      exact (FileSystem.keeps_writeText hwrite).isDirectory
        (FileSystem.isDirectory_of_createParent hcreate hq hd)

/-- **A compile that succeeds has written the dependency file.** -/
theorem written_of_finish {record : Record} (hp : p ≠ .finished (.ok record))
    (h : (finish s runner job p w).1 = .ok record) :
    Written job record (finish s runner job p w).2.files := by
  induction p, w using finish.induct s runner job with
  | case1 p w result hresult =>
    obtain rfl := eq_finished_of_result? hresult
    rw [finish_finished] at h
    exact absurd (congrArg Progress.finished h) hp
  | case2 p w hresult next =>
    rename_i ih
    rw [finish_step hresult] at h ⊢
    by_cases hnext : (step s runner job p w).1 = .finished (.ok record)
    · obtain rfl := (step_eq_ok hnext).resolve_left hp
      rcases hsave : record.save w.files job.depFile w.limits with ⟨e | _, files⟩
      all_goals
        have hlast : step s runner job (.headersKnown record) w = saveRecord job record w := rfl
        rw [hlast, saveRecord, hsave] at hnext ⊢
      · cases hnext
      · rw [finish_finished]
        exact written_of_save hsave
    · exact ih hnext h

theorem written_of_compile {arch : Architecture} {record : Record}
    (h : (compile s runner arch job w).1 = .ok record) :
    Written job record (compile s runner arch job w).2.files := by
  rw [compile] at h ⊢
  cases hcheck : s.checkArchitecture arch with
  | error e =>
    rw [hcheck] at h
    cases h
  | ok =>
    rw [hcheck] at h
    have hstart : Progress.start ≠ .finished (.ok record) := by simp
    exact written_of_finish hstart h

/-! ## A failure -/

theorem grown_createPlaces (paths : List Path) (files : FileSystem) (limits : Limits) :
    Grown (paths.flatMap files.passed) files (createPlaces limits paths files).2 := by
  induction paths generalizing files with
  | nil => exact .refl _ files
  | cons p paths ih =>
    have hparent := FileSystem.grown_createParent files p limits
    rw [createPlaces, List.flatMap_cons]
    rcases hcreate : files.createParent p limits with ⟨_ | _, made⟩
    · rw [hcreate] at hparent
      exact hparent.mono (List.subset_append_left _ _)
    · rw [hcreate] at hparent
      have hrest := ih made
      rw [show made.passed = files.passed from funext (FileSystem.passed_congr hparent.current)]
        at hrest
      exact (hparent.mono (List.subset_append_left _ _)).trans
        (hrest.mono (List.subset_append_right _ _))

/-- Directories made for the outputs leave the dependency file as it was. -/
theorem sameAt_createPlaces (h : OffTheWay job files) (limits : Limits) :
    SameAt job.depFile files (createPlaces limits [job.object, job.depFile] files).2 := by
  refine (grown_createPlaces _ files limits).sameAt fun hnone hmem => ?_
  obtain ⟨p, hp, hpassed⟩ := List.mem_flatMap.1 hmem
  exact h hnone p hp hpassed

/-- So does the creation of the directory it lies in. -/
theorem sameAt_createParent (h : OffTheWay job files) (limits : Limits) :
    SameAt job.depFile files (files.createParent job.depFile limits).2 :=
  (FileSystem.grown_createParent files job.depFile limits).sameAt fun hnone =>
    h hnone job.depFile (List.mem_cons_of_mem _ (List.mem_singleton_self _))

/-- **A record that is not saved** leaves the dependency file as it was, or the write of it has
broken off. -/
theorem kept_save {record : Record} {e : BuildError} (hpath : OffTheWay job before.files)
    (hsame : SameAt job.depFile before.files files) (hnamed : Named job (.headersKnown record))
    (hsave : record.save files job.depFile before.limits = (.error e, files')) :
    SameAt job.depFile before.files files' ∨ BrokenOff job before e files' := by
  have hparent := hsame.trans (sameAt_createParent (hpath.of_sameAt hsame) before.limits)
  obtain ⟨hsource, hobject⟩ := hnamed record rfl
  rw [Record.save] at hsave
  rcases hcreate : files.createParent job.depFile before.limits with ⟨_ | _, made⟩
  all_goals rw [hcreate] at hparent hsave
  · cases hsave
    exact .inl hparent
  · cases hwrite : made.writeText job.depFile record.makefile before.limits with
    | ok written => simp [hwrite] at hsave
    | error refusal =>
      simp only [hwrite, Prod.mk.injEq, Except.error.injEq] at hsave
      obtain ⟨rfl, rfl⟩ := hsave
      obtain hleft | ⟨loc, executable, bytes, why, hloc, hsep, hfree, hroom, hless, rfl⟩ :=
        FileSystem.writeBytes_eq_error hwrite
      · rw [hleft]
        exact .inl hparent
      · have hplace : before.files.place job.depFile = loc := by
          rw [← FileSystem.place_congr hparent.current, FileSystem.place_of_locate hloc]
        exact .inr ⟨record, bytes, why, hsource, hobject, hplace ▸ hroom, hless, rfl,
          FileSystem.readBytes_set hloc hsep hfree⟩

theorem place_report_ne (job : CompileJob) (files : FileSystem) :
    files.place job.report ≠ files.place job.depFile :=
  FileSystem.place_suffixed_ne files job.depFile (by decide) (by decide)

theorem kept_of_sameAt (h : SameAt job.depFile before.files w.files) (p : Progress) :
    Kept job before w p := by
  unfold Kept
  split
  · trivial
  · exact .inl h
  · exact h

/-- **Only the last step touches the dependency file.** -/
theorem step_kept (htools : ∀ c ∈ pipeline s job, runner.Spares c job.depFile)
    (hpath : OffTheWay job before.files) (hp : InPipeline s job p) (hnamed : Named job p)
    (hlimits : w.limits = before.limits) (h : Kept job before w p) :
    Kept job before (step s runner job p w).2 (step s runner job p w).1 := by
  have hrun : ∀ {c : Command} {next : ToolOutput → Progress}, c ∈ pipeline s job →
      SameAt job.depFile before.files w.files →
      Kept job before (runThen runner job c next w).2 (runThen runner job c next w).1 := by
    intro c next hc hsame
    refine kept_of_sameAt ?_ _
    rw [snd_runThen]
    exact hsame.trans ((htools c hc).call w)
  cases p with
  | start =>
    have hplaces := h.trans (sameAt_createPlaces (hpath.of_sameAt h) w.limits)
    show Kept job before (makePlaces job w).2 (makePlaces job w).1
    rw [makePlaces]
    rcases hcreate : createPlaces w.limits [job.object, job.depFile] w.files with ⟨_ | _, files⟩
    all_goals
      rw [hcreate] at hplaces
      exact kept_of_sameAt hplaces _
  | placesReady =>
    cases htool : ownTool? s job with
    | none =>
      rw [step_placesReady_of_none htool, clearReport]
      cases hremove : w.files.removeFileIfExists job.report w.limits with
      | error e => exact kept_of_sameAt h _
      | ok files =>
        exact h.trans (FileSystem.sameAt_removeFileIfExists (place_report_ne job w.files) hremove)
    | some tool =>
      obtain ⟨marker, own⟩ := tool
      rw [step_placesReady_of_some htool]
      exact hrun (by simp [(ownTool?_eq_some htool).2]) h
  | reportCleared => exact hrun (by simp [(ownTool?_eq_none (hp rfl)).2]) h
  | objectMade => exact h
  | entryRecorded =>
    show Kept job before (readReport s job w).2 (readReport s job w).1
    obtain ⟨-, reason, hread⟩ | ⟨-, record, hread⟩ := readReport_cases s job w
    all_goals
      rw [hread]
      exact kept_of_sameAt h _
  | preprocessed record =>
    cases htool : ownTool? s job with
    | none =>
      rw [step_preprocessed_of_none htool]
      exact h
    | some tool =>
      obtain ⟨marker, own⟩ := tool
      rw [step_preprocessed_of_some htool]
      exact hrun (by simp [(ownTool?_eq_some htool).2]) h
  | headersKnown record =>
    show Kept job before (saveRecord job record w).2 (saveRecord job record w).1
    rw [saveRecord, hlimits]
    rcases hsave : record.save w.files job.depFile before.limits with ⟨e | _, files⟩
    · exact kept_save hpath h hnamed hsave
    · trivial
  | finished result => exact h

theorem finish_kept (htools : ∀ c ∈ pipeline s job, runner.Spares c job.depFile)
    (hpath : OffTheWay job w.files) :
    Kept job w (finish s runner job .start w).2 (.finished (finish s runner job .start w).1) := by
  have hstep : ∀ p left,
      InPipeline s job p ∧ Named job p ∧ left.limits = w.limits ∧ Kept job w left p →
      InPipeline s job (step s runner job p left).1 ∧ Named job (step s runner job p left).1 ∧
        (step s runner job p left).2.limits = w.limits ∧
        Kept job w (step s runner job p left).2 (step s runner job p left).1 := by
    rintro p left ⟨hp, hnamed, hlimits, hkept⟩
    exact ⟨inPipeline_step s runner job p left, step_named hnamed s runner left,
      (limits_step hp runner left).trans hlimits,
      step_kept htools hpath hp hnamed hlimits hkept⟩
  have hstart : Named job .start := nofun
  exact (finish_keeps hstep ⟨inPipeline_start, hstart, rfl, .refl job.depFile w.files⟩).2.2.2

/-! ## Whole compiles -/

/-- **The dependency file is all or nothing.** Let no tool of a job touch the dependency file, and
let it not be on the way to the outputs unless it is there. If the compile fails, what is at its
place is what was there before, whatever it was, unless there was no room to write all of a record;
if the compile succeeds, the file is there, says what the record says, and lies in directories that
are there. -/
theorem compile_depFile (s : Session) (runner : ToolRunner σ) (arch : Architecture)
    (job : CompileJob) (w : Workshop σ) (hpath : OffTheWay job w.files)
    (htools : ∀ c ∈ pipeline s job, runner.Spares c job.depFile) :
    (∀ e, (compile s runner arch job w).1 = .error e →
      SameAt job.depFile w.files (compile s runner arch job w).2.files ∨
        BrokenOff job w e (compile s runner arch job w).2.files) ∧
    ∀ record, (compile s runner arch job w).1 = .ok record →
      Written job record (compile s runner arch job w).2.files := by
  refine ⟨fun e he => ?_, fun record hrecord => written_of_compile hrecord⟩
  have hkept : Kept job w (compile s runner arch job w).2
      (.finished (compile s runner arch job w).1) := by
    rw [compile]
    cases s.checkArchitecture arch with
    | error e => exact .inl (.refl job.depFile w.files)
    | ok => exact finish_kept htools hpath
  rw [he] at hkept
  exact hkept

/-! ### A script, a detour and a full disk -/

/-- A resource script with its outputs in the folder `out`. -/
def scriptJob : CompileJob where
  source := ⟨"b.rc"⟩
  object := ⟨"out/b.res"⟩
  depFile := ⟨"out/b.res.d"⟩
  macros := []
  includeDirs := []
  frameworkPaths := []
  runtime := .dynamic

/-- The resource compiler fails, and whatever runs before it does not. -/
def failingScript : ToolRunner Unit := .scripted fun c =>
  (.ok ⟨some (if c.program = ⟨"rc.exe"⟩ then 1 else 0), "", ""⟩, [])

theorem spares_failingScript (c : Command) (p : Path) : failingScript.Spares c p :=
  fun _ files => .refl p files

/-- The dependency file of an earlier compile. -/
def builtBefore : Workshop Unit :=
  .start ⟨[(["out"], .directory), (["out", "b.res.d"], .file "old".toUTF8 false)], []⟩ () none

theorem offTheWay_scriptJob : OffTheWay scriptJob builtBefore.files := by
  intro hnone
  have hsome : (builtBefore.files.lookup? (builtBefore.files.place scriptJob.depFile)).isNone =
      false := by decide +kernel
  rw [hnone] at hsome
  cases hsome

theorem compile_depFile_failingScript :
    OffTheWay scriptJob builtBefore.files ∧
    (∀ c ∈ pipeline sampleSession scriptJob, failingScript.Spares c scriptJob.depFile) ∧
    (compile sampleSession failingScript .x64 scriptJob builtBefore).1 =
      .error (.compileFailed ⟨"b.rc"⟩ (some 1) "") ∧
    (compile sampleSession failingScript .x64 scriptJob builtBefore).2.files.lookup?
      ["out", "b.res.d"] = some (.file "old".toUTF8 false) := by
  have hfailed : (compile sampleSession failingScript .x64 scriptJob builtBefore).1 =
      .error (.compileFailed ⟨"b.rc"⟩ (some 1) "") := by decide +kernel
  have hsame := ((compile_depFile sampleSession failingScript .x64 scriptJob builtBefore
    offTheWay_scriptJob
    fun c _ => spares_failingScript c _).1 _ hfailed).resolve_right
      fun ⟨_, _, _, _, _, hroom, _⟩ => by cases hroom
  have hplace : builtBefore.files.place scriptJob.depFile = ["out", "b.res.d"] := by
    decide +kernel
  refine ⟨offTheWay_scriptJob, fun c _ => spares_failingScript c _, hfailed, ?_⟩
  rw [← hplace, hsame.lookup?, hplace]
  rfl

/-- The dependency file is asked for at `x/../x`. -/
def detourJob : CompileJob := { scriptJob with object := ⟨"b.res"⟩, depFile := ⟨"x/../x"⟩ }

/-- Tools that do nothing, and succeed. -/
def quietTools : ToolRunner Unit := .scripted fun _ => (.ok ⟨some 0, "", ""⟩, [])

/-- There is a dependency file of an earlier compile, and no room for another one. -/
def fullDisk : Workshop Unit :=
  { builtBefore with
    limits := { room := fun _ => some (0, "No space left on device (os error 28)") } }

/-- **A failure changes a dependency file that is on the way to itself, or that there is no room
for.** Nothing is at `x/../x`, but a directory `x` is made for what lies in `x/..`, and the path
then leads there. On a full disk the earlier file is lost when the new one is opened. -/
theorem compile_depFile_changed :
    ((∀ c, failingScript.Spares c detourJob.depFile) ∧
      ¬ detourJob.depFile.steps <+: detourJob.object.steps ∧
      (FileSystem.stat? ⟨[], []⟩ detourJob.depFile).isNone ∧
      ¬ ∀ e, (compile sampleSession failingScript .x64 detourJob (.start ⟨[], []⟩ () none)).1 =
          .error e →
        (compile sampleSession failingScript .x64 detourJob
          (.start ⟨[], []⟩ () none)).2.files.stat? detourJob.depFile = none) ∧
    (∀ c, quietTools.Spares c scriptJob.depFile) ∧ OffTheWay scriptJob fullDisk.files ∧
      fullDisk.files.readBytes scriptJob.depFile = .ok "old".toUTF8 ∧
      (compile sampleSession quietTools .x64 scriptJob fullDisk).1 =
        .error (.fileAccess scriptJob.depFile (.other "No space left on device (os error 28)")) ∧
      (compile sampleSession quietTools .x64 scriptJob fullDisk).2.files.readBytes
        scriptJob.depFile = .ok .empty := by
  have hfailed : (compile sampleSession failingScript .x64 detourJob
      (.start ⟨[], []⟩ () none)).1 = .error (.compileFailed ⟨"b.rc"⟩ (some 1) "") := by
    decide +kernel
  have hdirectory : (compile sampleSession failingScript .x64 detourJob
      (.start ⟨[], []⟩ () none)).2.files.isDirectory detourJob.depFile = true := by
    decide +kernel
  refine ⟨⟨fun c => spares_failingScript c _, by decide +kernel, by decide +kernel, fun h => ?_⟩,
    fun _ _ files => .refl _ files, offTheWay_scriptJob, by decide +kernel, by decide +kernel,
    by decide +kernel⟩
  rw [FileSystem.isDirectory, h _ hfailed] at hdirectory
  cases hdirectory

end Clinker.Compile

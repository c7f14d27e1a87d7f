import Clinker.Compile
import Clinker.Proofs.Workshop.Log

/-!
# Which tools a compile runs, and what it makes of their answers

A compile goes through the commands of its `pipeline` and stops at the first answer that is no
success. What has been called, answered and recorded when a compile has come to some point is
`Stage`; each step leads from one stage to the next (`step_stage`), so a compile that is over has
ended in one of the ways that `Ended` lists. From these the result can be read off the log of the
answers, and which log led to a result off the result (`compile_explained`).

Whatever else is known of a compile is known step by step: a step calls a tool of the pipeline, or
it changes files and what is recorded (`snd_step_cases`); what every step keeps, a whole compile
keeps (`finish_keeps`); and two compiles whose steps agree come to the same (`finish_alongside`).
-/

namespace Clinker.Compile

open Dependency (Record Report)

variable {σ : Type}

/-! ## Pipelines -/

/-- The commands that compile a source, in order. -/
def pipeline (s : Session) (job : CompileJob) : List Command :=
  match job.kind with
  | .ordinary => [sourceCommand s job]
  | .resourceScript => [preprocessCommand s job "RC_INVOKED", resourceCommand s job]
  | .interfaceDefinition => [preprocessCommand s job "__midl", interfaceCommand s job]

theorem ownTool?_eq_none {s : Session} {job : CompileJob} (h : ownTool? s job = none) :
    job.kind = .ordinary ∧ pipeline s job = [sourceCommand s job] := by
  unfold ownTool? at h
  unfold pipeline
  cases hkind : job.kind with
  | ordinary => exact ⟨rfl, rfl⟩
  | resourceScript => simp [hkind] at h
  | interfaceDefinition => simp [hkind] at h

theorem ownTool?_eq_some {s : Session} {job : CompileJob} {marker : String} {own : Command}
    (h : ownTool? s job = some (marker, own)) :
    job.kind ≠ .ordinary ∧ pipeline s job = [preprocessCommand s job marker, own] := by
  unfold ownTool? at h
  unfold pipeline
  cases hkind : job.kind with
  | ordinary => simp [hkind] at h
  | resourceScript =>
    simp only [hkind, Option.some.injEq, Prod.mk.injEq] at h
    obtain ⟨rfl, rfl⟩ := h
    exact ⟨by decide, rfl⟩
  | interfaceDefinition =>
    simp only [hkind, Option.some.injEq, Prod.mk.injEq] at h
    obtain ⟨rfl, rfl⟩ := h
    exact ⟨by decide, rfl⟩

/-! ## Reports and database entries -/

/-- Whether the report of a job is there, can be read and is well-formed. -/
def HasReport (files : FileSystem) (job : CompileJob) : Prop :=
  ∃ text report, files.readText job.report = .ok text ∧ Report.ofText? text = some report

theorem load_eq_ok {files : FileSystem} {job : CompileJob} {report : Report}
    (h : Report.load files job.report job.source = .ok report) : HasReport files job := by
  unfold Report.load at h
  cases htext : files.readText job.report with
  | error e => simp [htext] at h
  | ok text =>
    cases hreport : Report.ofText? text with
    | none => simp [htext, hreport] at h
    | some report => exact ⟨text, report, htext, hreport⟩

theorem load_eq_error {files : FileSystem} {job : CompileJob} {e : BuildError}
    (h : Report.load files job.report job.source = .error e) :
    (∃ reason, e = .reportUnusable job.source job.report reason) ∧ ¬ HasReport files job := by
  unfold Report.load at h
  cases htext : files.readText job.report with
  | error cause =>
    simp only [htext, Except.error.injEq] at h
    refine ⟨⟨_, h.symm⟩, ?_⟩
    rintro ⟨text, report, hread, -⟩
    simp [htext] at hread
  | ok text =>
    cases hreport : Report.ofText? text with
    | some report => simp [htext, hreport] at h
    | none =>
      simp only [htext, hreport, Except.error.injEq] at h
      refine ⟨⟨_, h.symm⟩, ?_⟩
      rintro ⟨text', report, hread, hparse⟩
      rw [htext, Except.ok.injEq] at hread
      subst hread
      simp [hreport] at hparse

/-- The database entry of an ordinary source that was compiled when the files were `files`. -/
def entryFor (s : Session) (job : CompileJob) (files : FileSystem) : DatabaseEntry :=
  .ofCommand files.currentPath job.source job.object (sourceCommand s job)

/-- What the database `db` is after the calls of a log: an ordinary source whose compiler
succeeded is recorded, and nothing else is. -/
structure Recorded (s : Session) (job : CompileJob) (before : Option Database)
    (log : List LogEntry) (db : Option Database) : Prop where
  recorded : ∀ entry ∈ log, job.kind = .ordinary → entry.Succeeded →
    db = before.map (·.record (entryFor s job entry.files))
  unchanged : (∀ entry ∈ log, job.kind = .ordinary → ¬ entry.Succeeded) → db = before

theorem recorded_nil (s : Session) (job : CompileJob) (before : Option Database) :
    Recorded s job before [] before :=
  ⟨fun _ h => absurd h List.not_mem_nil, fun _ => rfl⟩

/-- The tools of other sources leave the database alone. -/
theorem recorded_of_ne {s : Session} {job : CompileJob} (h : job.kind ≠ .ordinary)
    (before : Option Database) (log : List LogEntry) : Recorded s job before log before :=
  ⟨fun _ _ hkind => absurd hkind h, fun _ => rfl⟩

theorem recorded_of_not_succeeded {s : Session} {job : CompileJob} {entry : LogEntry}
    (h : ¬ entry.Succeeded) (before : Option Database) :
    Recorded s job before [entry] before :=
  ⟨fun _ hmem _ hok => absurd (List.mem_singleton.1 hmem ▸ hok) h, fun _ => rfl⟩

theorem recorded_of_succeeded {s : Session} {job : CompileJob} {entry : LogEntry}
    (hkind : job.kind = .ordinary) (h : entry.Succeeded) (before : Option Database) :
    Recorded s job before [entry] (before.map (·.record (entryFor s job entry.files))) := by
  refine ⟨fun other hmem _ _ => ?_, fun hnone => ?_⟩
  · rw [List.mem_singleton.1 hmem]
  · exact absurd h (hnone entry (List.mem_singleton_self entry) hkind)

/-! ## How a compile ends -/

/-- The ways in which a compile with the calls of a log comes to its result. -/
inductive Ended (s : Session) (job : CompileJob) :
    List LogEntry → Except BuildError Record → Prop
  | noCall {path : Path} {cause : SystemError} : Ended s job [] (.error (.fileAccess path cause))
  | refused {before : List LogEntry} {last : LogEntry} {e : BuildError} :
      commandsOf (before ++ [last]) <+: pipeline s job →
      (∀ entry ∈ before, entry.Succeeded) → last.answer = .error e →
      Ended s job (before ++ [last]) (.error e)
  | failed {before : List LogEntry} {last : LogEntry} {output : ToolOutput} :
      commandsOf (before ++ [last]) <+: pipeline s job →
      (∀ entry ∈ before, entry.Succeeded) → last.answer = .ok output → output.code ≠ some 0 →
      Ended s job (before ++ [last])
        (.error (.compileFailed job.source output.code output.combined))
  | reportUnusable {last : LogEntry} {reason : String} :
      job.kind = .ordinary → commandsOf [last] = pipeline s job → last.Succeeded →
      ¬ HasReport last.files job →
      Ended s job [last] (.error (.reportUnusable job.source job.report reason))
  | allRan {log : List LogEntry} {result : Except BuildError Record} :
      commandsOf log = pipeline s job → (∀ entry ∈ log, entry.Succeeded) →
      (job.kind = .ordinary → ∀ entry ∈ log, HasReport entry.files job) →
      (∀ e, result = .error e → ∃ path cause, e = .fileAccess path cause) →
      Ended s job log result

/-- What has happened when a compile that began with the database `before` has come to some
point. -/
def Stage (s : Session) (job : CompileJob) (before : Option Database) (log : List LogEntry)
    (w : Workshop σ) : Progress → Prop
  | .start | .placesReady => log = [] ∧ w.database = before
  | .reportCleared => ownTool? s job = none ∧ log = [] ∧ w.database = before
  | .objectMade => ∃ entry, ownTool? s job = none ∧ log = [entry] ∧
      entry.command = sourceCommand s job ∧ entry.Succeeded ∧ entry.files = w.files ∧
      w.database = before
  | .entryRecorded => ∃ entry, ownTool? s job = none ∧ log = [entry] ∧
      entry.command = sourceCommand s job ∧ entry.Succeeded ∧ entry.files = w.files ∧
      Recorded s job before log w.database
  | .preprocessed _ => ∃ entry marker own, ownTool? s job = some (marker, own) ∧ log = [entry] ∧
      entry.command = preprocessCommand s job marker ∧ entry.Succeeded ∧ w.database = before
  | .headersKnown _ => commandsOf log = pipeline s job ∧ (∀ entry ∈ log, entry.Succeeded) ∧
      (job.kind = .ordinary → ∀ entry ∈ log, HasReport entry.files job) ∧
      Recorded s job before log w.database
  | .finished result => Ended s job log result ∧ Recorded s job before log w.database

/-! ## Steps -/

/-- A tool that is refused or exits with another code than 0 ends the compile. -/
theorem runThen_cases (runner : ToolRunner σ) (job : CompileJob) (c : Command)
    (next : ToolOutput → Progress) (w : Workshop σ) :
    (∃ e, (w.entryOf runner c).answer = .error e ∧
      runThen runner job c next w = (.finished (.error e), (w.call runner c).2)) ∨
    (∃ output, (w.entryOf runner c).answer = .ok output ∧ output.code ≠ some 0 ∧
      runThen runner job c next w =
        (.finished (.error (.compileFailed job.source output.code output.combined)),
          (w.call runner c).2)) ∨
    ∃ output, (w.entryOf runner c).answer = .ok output ∧ output.code = some 0 ∧
      runThen runner job c next w = (next output, (w.call runner c).2) := by
  have hentry : (w.call runner c).1 = (w.entryOf runner c).answer := rfl
  obtain ⟨e, hanswer⟩ | ⟨output, hanswer, hcode, hok⟩ | ⟨output, hanswer, hcode, hok⟩ :=
    (w.entryOf runner c).answer_cases
  · refine .inl ⟨e, hanswer, ?_⟩
    simp only [runThen, runTool, hentry, hanswer, Except.bind]
  · refine .inr (.inl ⟨output, hanswer, hcode, ?_⟩)
    simp only [runThen, runTool, hentry, hanswer, Except.bind, hok, Bool.false_eq_true, if_false]
  · refine .inr (.inr ⟨output, hanswer, hcode, ?_⟩)
    simp only [runThen, runTool, hentry, hanswer, Except.bind, hok, if_true]

/-- A tool that is run ends the compile with an error or leads to what follows it. -/
theorem fst_runThen (runner : ToolRunner σ) (job : CompileJob) (c : Command)
    (next : ToolOutput → Progress) (w : Workshop σ) :
    (∃ e, (runThen runner job c next w).1 = .finished (.error e)) ∨
    ∃ output, (runThen runner job c next w).1 = next output := by
  obtain ⟨e, -, h⟩ | ⟨output, -, -, h⟩ | ⟨output, -, -, h⟩ := runThen_cases runner job c next w
  · exact .inl ⟨e, congrArg Prod.fst h⟩
  · exact .inl ⟨_, congrArg Prod.fst h⟩
  · exact .inr ⟨output, congrArg Prod.fst h⟩

theorem runThen_withLog (runner : ToolRunner σ) (job : CompileJob) (c : Command)
    (next : ToolOutput → Progress) (w : Workshop σ) (log : List LogEntry) :
    runThen runner.logged job c next (w.withLog log) =
      ((runThen runner job c next w).1,
        (runThen runner job c next w).2.withLog (log ++ [w.entryOf runner c])) := by
  simp only [runThen, runTool, Workshop.call_withLog]
  cases (w.call runner c).1 with
  | error e => rfl
  | ok output => cases h : output.succeeded <;> simp [Except.bind, h]

theorem snd_runThen (runner : ToolRunner σ) (job : CompileJob) (c : Command)
    (next : ToolOutput → Progress) (w : Workshop σ) :
    (runThen runner job c next w).2 = (w.call runner c).2 := by
  obtain ⟨_, -, h⟩ | ⟨_, -, -, h⟩ | ⟨_, -, -, h⟩ := runThen_cases runner job c next w <;> rw [h]

/-- **A call ends the compile or leads to the next stage.** -/
theorem runThen_stage {s : Session} {runner : ToolRunner σ} {job : CompileJob} {c : Command}
    {next : ToolOutput → Progress} {before : Option Database} {log : List LogEntry}
    {w : Workshop σ} (hcommands : commandsOf log ++ [c] <+: pipeline s job)
    (hlog : ∀ entry ∈ log, entry.Succeeded)
    (hfail : ¬ (w.entryOf runner c).Succeeded →
      Recorded s job before (log ++ [w.entryOf runner c]) w.database)
    (hnext : ∀ output, (w.entryOf runner c).Succeeded →
      Stage s job before (log ++ [w.entryOf runner c]) (w.call runner c).2 (next output)) :
    Stage s job before (log ++ [w.entryOf runner c]) (runThen runner job c next w).2
      (runThen runner job c next w).1 := by
  have hcalled : commandsOf (log ++ [w.entryOf runner c]) <+: pipeline s job := by
    rwa [commandsOf_append, commandsOf_singleton, Workshop.command_entryOf]
  obtain ⟨e, hanswer, h⟩ | ⟨output, hanswer, hcode, h⟩ | ⟨output, hanswer, hcode, h⟩ :=
    runThen_cases runner job c next w
  · rw [h]
    exact ⟨.refused hcalled hlog hanswer, hfail (LogEntry.not_succeeded_of_error hanswer)⟩
  · rw [h]
    exact ⟨.failed hcalled hlog hanswer hcode, hfail (LogEntry.not_succeeded_of_code hanswer hcode)⟩
  · rw [h]
    exact hnext output ⟨output, hanswer, hcode⟩

/-! ### Steps that run no tool -/

theorem createPlaces_error {limits : Limits} {paths : List Path} {files left : FileSystem}
    {e : BuildError} (h : createPlaces limits paths files = (.error e, left)) :
    ∃ path cause, e = .fileAccess path cause := by
  induction paths generalizing files with
  | nil => cases h
  | cons path paths ih =>
    rw [createPlaces] at h
    rcases hparent : files.createParent path limits with ⟨_ | _, files'⟩
    · simp only [hparent, Prod.mk.injEq, Except.error.injEq] at h
      exact ⟨path, _, h.1.symm⟩
    · rw [hparent] at h
      exact ih h

theorem save_error {limits : Limits} {record : Record} {files left : FileSystem} {path : Path}
    {e : BuildError} (h : record.save files path limits = (.error e, left)) :
    ∃ path cause, e = .fileAccess path cause := by
  rw [Record.save] at h
  rcases hparent : files.createParent path limits with ⟨_ | _, files'⟩
  · simp only [hparent, Prod.mk.injEq, Except.error.injEq] at h
    exact ⟨_, _, h.1.symm⟩
  · rw [hparent] at h
    cases hwrite : files'.writeText path record.makefile limits with
    | error cause =>
      simp only [hwrite, Prod.mk.injEq, Except.error.injEq] at h
      exact ⟨_, _, h.1.symm⟩
    | ok files'' => simp [hwrite] at h

/-- The directories are made, or the compile is over. -/
theorem makePlaces_cases (job : CompileJob) (w : Workshop σ) : ∃ files,
    (∃ path cause, makePlaces job w =
      (.finished (.error (.fileAccess path cause)), w.withFiles files)) ∨
    makePlaces job w = (.placesReady, w.withFiles files) := by
  rw [makePlaces]
  rcases hplaces : createPlaces w.limits [job.object, job.depFile] w.files with ⟨e | _, files⟩
  · obtain ⟨path, cause, rfl⟩ := createPlaces_error hplaces
    exact ⟨files, .inl ⟨path, cause, rfl⟩⟩
  · exact ⟨files, .inr rfl⟩

/-- The earlier report is gone, or the compile is over. -/
theorem clearReport_cases (job : CompileJob) (w : Workshop σ) :
    (∃ path cause, clearReport job w = (.finished (.error (.fileAccess path cause)), w)) ∨
    ∃ files, clearReport job w = (.reportCleared, w.withFiles files) := by
  rw [clearReport]
  cases w.files.removeFileIfExists job.report w.limits with
  | error cause => exact .inl ⟨_, _, rfl⟩
  | ok files => exact .inr ⟨files, rfl⟩

/-- There is a report and its headers are known, or there is none and the compile is over. -/
theorem readReport_cases (s : Session) (job : CompileJob) (w : Workshop σ) :
    (¬ HasReport w.files job ∧ ∃ reason, readReport s job w =
      (.finished (.error (.reportUnusable job.source job.report reason)), w)) ∨
    HasReport w.files job ∧ ∃ record, readReport s job w = (.headersKnown record, w) := by
  rw [readReport]
  cases hload : Report.load w.files job.report job.source with
  | error e =>
    obtain ⟨⟨reason, rfl⟩, hno⟩ := load_eq_error hload
    exact .inl ⟨hno, reason, rfl⟩
  | ok report => exact .inr ⟨load_eq_ok hload, _, rfl⟩

/-- The compile is over, with the record or because a file could not be written. -/
theorem saveRecord_cases (job : CompileJob) (record : Record) (w : Workshop σ) :
    ∃ result files, saveRecord job record w = (.finished result, w.withFiles files) ∧
      ∀ e, result = .error e → ∃ path cause, e = .fileAccess path cause := by
  rw [saveRecord]
  rcases hsave : record.save w.files job.depFile w.limits with ⟨e | _, files⟩
  · refine ⟨.error e, files, rfl, fun e' he => ?_⟩
    rw [Except.error.injEq] at he
    exact he ▸ save_error hsave
  · exact ⟨.ok record, files, rfl, fun e he => by cases he⟩

/-! ### Steps that depend on the kind of the source -/

section Kind

variable {s : Session} {job : CompileJob} {marker : String} {own : Command}

theorem step_placesReady_of_none (h : ownTool? s job = none) (runner : ToolRunner σ)
    (w : Workshop σ) : step s runner job .placesReady w = clearReport job w := by
  unfold step
  simp only [h]

theorem step_placesReady_of_some (h : ownTool? s job = some (marker, own))
    (runner : ToolRunner σ) (w : Workshop σ) : step s runner job .placesReady w =
      runThen runner job (preprocessCommand s job marker) (fun output =>
        .preprocessed (recordOf s job (Dependency.notedHeaders output.stderr))) w := by
  unfold step
  simp only [h]

theorem step_preprocessed_of_none (h : ownTool? s job = none) (runner : ToolRunner σ)
    (record : Record) (w : Workshop σ) :
    step s runner job (.preprocessed record) w = (.headersKnown record, w) := by
  unfold step
  simp only [h]

theorem step_preprocessed_of_some (h : ownTool? s job = some (marker, own))
    (runner : ToolRunner σ) (record : Record) (w : Workshop σ) :
    step s runner job (.preprocessed record) w =
      runThen runner job own (fun _ => .headersKnown record) w := by
  unfold step
  simp only [h]

end Kind

/-- Only an ordinary source comes to the point where no earlier report is left. -/
def InPipeline (s : Session) (job : CompileJob) (p : Progress) : Prop :=
  p = .reportCleared → ownTool? s job = none

theorem inPipeline_start {s : Session} {job : CompileJob} : InPipeline s job .start :=
  fun hcleared => by cases hcleared

theorem inPipeline_step (s : Session) (runner : ToolRunner σ) (job : CompileJob) (p : Progress)
    (w : Workshop σ) : InPipeline s job (step s runner job p w).1 := by
  intro hcleared
  have hlt := remaining_step_lt s runner job p w
  rw [hcleared] at hlt
  cases p with
  | start =>
    change (makePlaces job w).1 = _ at hcleared
    obtain ⟨files, ⟨path, cause, h⟩ | h⟩ := makePlaces_cases job w
    all_goals
      rw [h] at hcleared
      cases hcleared
  | placesReady =>
    cases htool : ownTool? s job with
    | none => rfl
    | some tool =>
      obtain ⟨marker, own⟩ := tool
      rw [step_placesReady_of_some htool] at hcleared
      have hle := remaining_runThen_le runner job (preprocessCommand s job marker)
        (fun output => .preprocessed (recordOf s job (Dependency.notedHeaders output.stderr))) w
        fun _ => Nat.le_refl 2
      rw [hcleared] at hle
      exact absurd hle (by decide)
  | finished result => cases hcleared
  | _ => exact absurd (hlt (Nat.succ_pos _)) (by simp [Progress.remaining])

/-! ### Calls and records of a step -/

/-- **What a step does to the workshop**: it calls a tool of the pipeline, or it changes files and
what is recorded. -/
theorem snd_step_cases {s : Session} {job : CompileJob} {p : Progress} (hp : InPipeline s job p)
    (runner : ToolRunner σ) (w : Workshop σ) :
    (∃ c ∈ pipeline s job, (step s runner job p w).2 = (w.call runner c).2) ∨
    ∃ files database, (step s runner job p w).2 =
      { w with files := files, database := database } := by
  cases p with
  | start =>
    obtain ⟨files, ⟨path, cause, h⟩ | h⟩ := makePlaces_cases job w
    all_goals exact .inr ⟨files, w.database, congrArg Prod.snd h⟩
  | placesReady =>
    cases htool : ownTool? s job with
    | none =>
      rw [step_placesReady_of_none htool]
      obtain ⟨path, cause, h⟩ | ⟨files, h⟩ := clearReport_cases job w
      all_goals exact .inr ⟨_, w.database, congrArg Prod.snd h⟩
    | some tool =>
      obtain ⟨marker, own⟩ := tool
      rw [step_placesReady_of_some htool]
      exact .inl ⟨preprocessCommand s job marker, by simp [(ownTool?_eq_some htool).2],
        snd_runThen runner job _ _ w⟩
  | reportCleared =>
    exact .inl ⟨sourceCommand s job, by simp [(ownTool?_eq_none (hp rfl)).2],
      snd_runThen runner job _ _ w⟩
  | objectMade => exact .inr ⟨w.files, _, rfl⟩
  | entryRecorded =>
    obtain ⟨-, reason, h⟩ | ⟨-, record, h⟩ := readReport_cases s job w
    all_goals exact .inr ⟨w.files, w.database, congrArg Prod.snd h⟩
  | preprocessed record =>
    cases htool : ownTool? s job with
    | none =>
      rw [step_preprocessed_of_none htool]
      exact .inr ⟨w.files, w.database, rfl⟩
    | some tool =>
      obtain ⟨marker, own⟩ := tool
      rw [step_preprocessed_of_some htool]
      exact .inl ⟨own, by simp [(ownTool?_eq_some htool).2], snd_runThen runner job _ _ w⟩
  | headersKnown record =>
    obtain ⟨result, files, h, -⟩ := saveRecord_cases job record w
    exact .inr ⟨files, w.database, congrArg Prod.snd h⟩
  | finished result => exact .inr ⟨w.files, w.database, rfl⟩

/-- **A step calls nothing but the tools of the pipeline.** -/
theorem step_calls {s : Session} {job : CompileJob} {p : Progress} (hp : InPipeline s job p)
    (runner : ToolRunner σ) (w : Workshop σ) : ∃ commands,
      (step s runner job p w).2.calls = w.calls ++ commands ∧
        ∀ c ∈ commands, c ∈ pipeline s job := by
  obtain ⟨c, hc, h⟩ | ⟨files, database, h⟩ := snd_step_cases hp runner w
  · exact ⟨[c], by rw [h, Workshop.calls_call], by simpa using hc⟩
  · exact ⟨[], by rw [h, List.append_nil], by simp⟩

/-- **A step leaves what the system refuses as it is.** -/
theorem limits_step {s : Session} {job : CompileJob} {p : Progress} (hp : InPipeline s job p)
    (runner : ToolRunner σ) (w : Workshop σ) : (step s runner job p w).2.limits = w.limits := by
  obtain ⟨c, -, h⟩ | ⟨files, database, h⟩ := snd_step_cases hp runner w
  all_goals rw [h]
  exact Workshop.limits_call runner c w

/-- The record that a compile has, once it knows the headers. -/
def Progress.record? : Progress → Option Record
  | preprocessed record | headersKnown record => some record
  | finished result => result.toOption
  | _ => none

/-- The record of a compile is about its source and its object. -/
def Named (job : CompileJob) (p : Progress) : Prop :=
  ∀ record ∈ p.record?, record.source = job.source ∧ record.object = job.object

theorem named_recordOf (s : Session) (job : CompileJob) (headers : List String) :
    ∀ record ∈ some (recordOf s job headers),
      record.source = job.source ∧ record.object = job.object := by
  rintro record ⟨⟩
  exact ⟨rfl, rfl⟩

/-- **A step makes no record but that of its job.** -/
theorem step_named {job : CompileJob} {p : Progress} (h : Named job p) (s : Session)
    (runner : ToolRunner σ) (w : Workshop σ) : Named job (step s runner job p w).1 := by
  have hnone : ∀ {p' : Progress}, p'.record? = none → Named job p' := by
    intro p' hp' record hrecord
    rw [hp'] at hrecord
    cases hrecord
  have hrun : ∀ {c next}, (∀ output, Named job (next output)) →
      Named job (runThen runner job c next w).1 := by
    intro c next hnext
    obtain ⟨e, hrun⟩ | ⟨output, hrun⟩ := fst_runThen runner job c next w
    all_goals rw [hrun]
    · exact hnone rfl
    · exact hnext output
  cases p with
  | start =>
    show Named job (makePlaces job w).1
    obtain ⟨files, ⟨path, cause, h⟩ | h⟩ := makePlaces_cases job w
    all_goals
      rw [h]
      exact hnone rfl
  | placesReady =>
    cases htool : ownTool? s job with
    | none =>
      rw [step_placesReady_of_none htool]
      obtain ⟨path, cause, h⟩ | ⟨files, h⟩ := clearReport_cases job w
      all_goals
        rw [h]
        exact hnone rfl
    | some tool =>
      obtain ⟨marker, own⟩ := tool
      rw [step_placesReady_of_some htool]
      exact hrun fun output => named_recordOf s job _
  | reportCleared => exact hrun fun _ => hnone rfl
  | objectMade => exact hnone rfl
  | entryRecorded =>
    show Named job (readReport s job w).1
    rw [readReport]
    cases Report.load w.files job.report job.source with
    | error e => exact hnone rfl
    | ok report => exact named_recordOf s job report.headers
  | preprocessed record =>
    cases htool : ownTool? s job with
    | none =>
      rw [step_preprocessed_of_none htool]
      exact h
    | some tool =>
      obtain ⟨marker, own⟩ := tool
      rw [step_preprocessed_of_some htool]
      exact hrun fun _ => h
  | headersKnown record =>
    show Named job (saveRecord job record w).1
    rw [saveRecord]
    rcases record.save w.files job.depFile w.limits with ⟨e | _, files⟩
    · exact hnone rfl
    · exact h
  | finished result => exact h

/-! ### Steps with a log -/

theorem makePlaces_withLog (job : CompileJob) (w : Workshop σ) (log : List LogEntry) :
    makePlaces job (w.withLog log) =
      ((makePlaces job w).1, (makePlaces job w).2.withLog log) := by
  rw [makePlaces, makePlaces, Workshop.files_withLog, Workshop.limits_withLog]
  rcases createPlaces w.limits [job.object, job.depFile] w.files with ⟨_ | _, files⟩ <;> rfl

theorem clearReport_withLog (job : CompileJob) (w : Workshop σ) (log : List LogEntry) :
    clearReport job (w.withLog log) =
      ((clearReport job w).1, (clearReport job w).2.withLog log) := by
  rw [clearReport, clearReport, Workshop.files_withLog, Workshop.limits_withLog]
  cases w.files.removeFileIfExists job.report w.limits <;> rfl

theorem readReport_withLog (s : Session) (job : CompileJob) (w : Workshop σ)
    (log : List LogEntry) : readReport s job (w.withLog log) =
      ((readReport s job w).1, (readReport s job w).2.withLog log) := by
  rw [readReport, readReport, Workshop.files_withLog]
  cases Report.load w.files job.report job.source <;> rfl

theorem saveRecord_withLog (job : CompileJob) (record : Record) (w : Workshop σ)
    (log : List LogEntry) : saveRecord job record (w.withLog log) =
      ((saveRecord job record w).1, (saveRecord job record w).2.withLog log) := by
  rw [saveRecord, saveRecord, Workshop.files_withLog, Workshop.limits_withLog]
  rcases record.save w.files job.depFile w.limits with ⟨_ | _, files⟩ <;> rfl

/-- **Each step leads from one stage to the next**, with a logged runner as with the runner
itself. -/
theorem step_stage (runner : ToolRunner σ) {s : Session} {job : CompileJob}
    {before : Option Database} {calls : List Command} {log : List LogEntry} {w : Workshop σ}
    {p : Progress} (hstage : Stage s job before log w p)
    (hcalls : w.calls = calls ++ commandsOf log) :
    ∃ log', step s runner.logged job p (w.withLog log) =
        ((step s runner job p w).1, (step s runner job p w).2.withLog log') ∧
      Stage s job before log' (step s runner job p w).2 (step s runner job p w).1 ∧
      (step s runner job p w).2.calls = calls ++ commandsOf log' := by
  -- A call adds its command to the calls and its entry to the log.
  have hcall : ∀ c next, (runThen runner job c next w).2.calls =
      calls ++ commandsOf (log ++ [w.entryOf runner c]) := by
    intro c next
    rw [snd_runThen, Workshop.calls_call, hcalls, commandsOf_append, List.append_assoc]
    rfl
  cases p with
  | start =>
    obtain ⟨rfl, hdb⟩ := hstage
    refine ⟨[], makePlaces_withLog job w [], ?_⟩
    change Stage s job before [] (makePlaces job w).2 (makePlaces job w).1 ∧
      (makePlaces job w).2.calls = _
    obtain ⟨files, ⟨path, cause, h⟩ | h⟩ := makePlaces_cases job w
    · rw [h]
      exact ⟨⟨.noCall, hdb ▸ recorded_nil s job w.database⟩, hcalls⟩
    · rw [h]
      exact ⟨⟨rfl, hdb⟩, hcalls⟩
  | placesReady =>
    obtain ⟨rfl, hdb⟩ := hstage
    cases htool : ownTool? s job with
    | none =>
      rw [step_placesReady_of_none htool, step_placesReady_of_none htool]
      refine ⟨[], clearReport_withLog job w [], ?_⟩
      obtain ⟨path, cause, h⟩ | ⟨files, h⟩ := clearReport_cases job w
      · rw [h]
        exact ⟨⟨.noCall, hdb ▸ recorded_nil s job w.database⟩, hcalls⟩
      · rw [h]
        exact ⟨⟨htool, rfl, hdb⟩, hcalls⟩
    | some tool =>
      obtain ⟨marker, own⟩ := tool
      obtain ⟨hkind, hpipeline⟩ := ownTool?_eq_some htool
      rw [step_placesReady_of_some htool, step_placesReady_of_some htool]
      refine ⟨_, runThen_withLog runner job _ _ w [], ?_, hcall _ _⟩
      refine runThen_stage ?_ (fun _ h => absurd h List.not_mem_nil) (fun _ => ?_) fun _ hok => ?_
      · rw [hpipeline]
        exact ⟨[own], rfl⟩
      · exact hdb ▸ recorded_of_ne hkind w.database _
      · exact ⟨_, marker, own, htool, rfl, rfl, hok, hdb⟩
  | reportCleared =>
    obtain ⟨htool, rfl, hdb⟩ := hstage
    obtain ⟨hkind, hpipeline⟩ := ownTool?_eq_none htool
    refine ⟨_, runThen_withLog runner job (sourceCommand s job) (fun _ => .objectMade) w [], ?_,
      hcall _ _⟩
    refine runThen_stage ?_ (fun _ h => absurd h List.not_mem_nil) (fun hfail => ?_) fun _ hok => ?_
    · rw [hpipeline]
      exact List.prefix_rfl
    · exact hdb ▸ recorded_of_not_succeeded hfail w.database
    · exact ⟨_, htool, rfl, rfl, hok, rfl, hdb⟩
  | objectMade =>
    obtain ⟨entry, htool, rfl, hcommand, hok, hfiles, hdb⟩ := hstage
    refine ⟨[entry], rfl, ⟨entry, htool, rfl, hcommand, hok, hfiles, ?_⟩, hcalls⟩
    have hrecorded := recorded_of_succeeded (s := s) (ownTool?_eq_none htool).1 hok before
    rw [← hdb, hfiles] at hrecorded
    exact hdb ▸ hrecorded
  | entryRecorded =>
    obtain ⟨entry, htool, rfl, hcommand, hok, hfiles, hdb⟩ := hstage
    obtain ⟨hkind, hpipeline⟩ := ownTool?_eq_none htool
    have hcommands : commandsOf [entry] = pipeline s job := by
      rw [hpipeline, commandsOf_singleton, hcommand]
    refine ⟨[entry], readReport_withLog s job w [entry], ?_⟩
    change Stage s job before [entry] (readReport s job w).2 (readReport s job w).1 ∧
      (readReport s job w).2.calls = _
    obtain ⟨hno, reason, h⟩ | ⟨hreport, record, h⟩ := readReport_cases s job w
    · rw [h]
      exact ⟨⟨.reportUnusable hkind hcommands hok (hfiles ▸ hno), hdb⟩, hcalls⟩
    · rw [h]
      refine ⟨⟨hcommands, ?_, fun _ => ?_, hdb⟩, hcalls⟩
      · simpa using hok
      · simpa [hfiles] using hreport
  | preprocessed record =>
    obtain ⟨entry, marker, own, htool, rfl, hcommand, hok, hdb⟩ := hstage
    obtain ⟨hkind, hpipeline⟩ := ownTool?_eq_some htool
    have hcommands : commandsOf [entry] ++ [own] = pipeline s job := by
      rw [hpipeline, commandsOf_singleton, hcommand]
      rfl
    have hentry : ∀ earlier ∈ [entry], earlier.Succeeded := by simpa using hok
    rw [step_preprocessed_of_some htool, step_preprocessed_of_some htool]
    refine ⟨_, runThen_withLog runner job _ _ w [entry], ?_, hcall _ _⟩
    refine runThen_stage (hcommands ▸ List.prefix_rfl) hentry (fun _ => ?_) fun _ hown => ?_
    · exact hdb ▸ recorded_of_ne hkind w.database _
    · refine ⟨hcommands, ?_, fun h => absurd h hkind, hdb ▸ recorded_of_ne hkind w.database _⟩
      intro earlier hmem
      rcases List.mem_append.1 hmem with hmem | hmem
      · exact hentry earlier hmem
      · exact List.mem_singleton.1 hmem ▸ hown
  | headersKnown record =>
    obtain ⟨hcommands, hok, hreport, hdb⟩ := hstage
    refine ⟨log, saveRecord_withLog job record w log, ?_⟩
    change Stage s job before log (saveRecord job record w).2 (saveRecord job record w).1 ∧
      (saveRecord job record w).2.calls = _
    obtain ⟨result, files, h, hresult⟩ := saveRecord_cases job record w
    rw [h]
    exact ⟨⟨.allRan hcommands hok hreport hresult, hdb⟩, hcalls⟩
  | finished result => exact ⟨log, rfl, hstage, hcalls⟩

/-! ## Whole compiles -/

theorem eq_finished_of_result? {p : Progress} {result : Except BuildError Record}
    (h : p.result? = some result) : p = .finished result := by
  cases p <;> simp_all [Progress.result?]

@[simp] theorem finish_finished (s : Session) (runner : ToolRunner σ) (job : CompileJob)
    (result : Except BuildError Record) (w : Workshop σ) :
    finish s runner job (.finished result) w = (result, w) := by
  rw [finish]
  rfl

theorem finish_step {p : Progress} (h : p.result? = none) (s : Session) (runner : ToolRunner σ)
    (job : CompileJob) (w : Workshop σ) : finish s runner job p w =
      finish s runner job (step s runner job p w).1 (step s runner job p w).2 := by
  rw [finish]
  split
  · next h' => rw [h'] at h; cases h
  · rfl

section Runs

variable {s : Session} {runner : ToolRunner σ} {job : CompileJob} {p : Progress} {w w' : Workshop σ}

/-- **What every step keeps, a compile keeps to its end.** -/
theorem finish_keeps {P : Progress → Workshop σ → Prop}
    (hstep : ∀ p w, P p w → P (step s runner job p w).1 (step s runner job p w).2) (h : P p w) :
    P (.finished (finish s runner job p w).1) (finish s runner job p w).2 := by
  induction p, w using finish.induct s runner job with
  | case1 p w result hresult =>
    obtain rfl := eq_finished_of_result? hresult
    rw [finish_finished]
    exact h
  | case2 p w hresult next =>
    rename_i ih
    rw [finish_step hresult]
    exact ih (hstep p w h)

/-- **Two compiles that take the same steps come to the same end.** -/
theorem finish_alongside {R : Progress → Workshop σ → Workshop σ → Prop}
    (hstep : ∀ p w w', R p w w' → (step s runner job p w').1 = (step s runner job p w).1 ∧
      R (step s runner job p w).1 (step s runner job p w).2 (step s runner job p w').2)
    (h : R p w w') : (finish s runner job p w').1 = (finish s runner job p w).1 ∧
      R (.finished (finish s runner job p w).1) (finish s runner job p w).2
        (finish s runner job p w').2 := by
  induction p, w using finish.induct s runner job generalizing w' with
  | case1 p w result hresult =>
    obtain rfl := eq_finished_of_result? hresult
    rw [finish_finished, finish_finished]
    exact ⟨rfl, h⟩
  | case2 p w hresult next =>
    rename_i ih
    obtain ⟨hprogress, hnext⟩ := hstep p w w' h
    rw [finish_step hresult, finish_step hresult, hprogress]
    exact ih hnext

end Runs

/-- **A compile goes from stage to stage to its end.** -/
theorem finish_stage (runner : ToolRunner σ) {s : Session} {job : CompileJob}
    {before : Option Database} {calls : List Command} {log : List LogEntry} {w : Workshop σ}
    {p : Progress} (hstage : Stage s job before log w p)
    (hcalls : w.calls = calls ++ commandsOf log) :
    ∃ log', finish s runner.logged job p (w.withLog log) =
        ((finish s runner job p w).1, (finish s runner job p w).2.withLog log') ∧
      Ended s job log' (finish s runner job p w).1 ∧
      Recorded s job before log' (finish s runner job p w).2.database ∧
      (finish s runner job p w).2.calls = calls ++ commandsOf log' := by
  induction p, w using finish.induct s runner job generalizing log with
  | case1 p w result hresult =>
    obtain rfl := eq_finished_of_result? hresult
    rw [finish_finished, finish_finished]
    exact ⟨log, rfl, hstage.1, hstage.2, hcalls⟩
  | case2 p w hresult next =>
    rename_i ih
    obtain ⟨log', hlogged, hstage', hcalls'⟩ := step_stage runner hstage hcalls
    rw [finish_step hresult, finish_step hresult, hlogged]
    exact ih hstage' hcalls'

/-- What a log of a compile says about its result, and the result about the log. -/
structure Explained (s : Session) (job : CompileJob) (log : List LogEntry)
    (result : Except BuildError Record) : Prop where
  /-- The tools are called in the order of the pipeline. -/
  inOrder : commandsOf log <+: pipeline s job
  /-- None is called after one that did not succeed. -/
  succeeded : ∀ entry ∈ log.dropLast, entry.Succeeded
  /-- An error of the runner is the result. -/
  refused : ∀ entry ∈ log, ∀ e, entry.answer = .error e → result = .error e
  /-- The compile failed exactly when the last tool called exited with another code than 0. -/
  failed : (∀ entry ∈ log, ∀ e, entry.answer ≠ .error e) → ∀ source code output,
    result = .error (.compileFailed source code output) ↔ source = job.source ∧
      ∃ last answer, log.getLast? = some last ∧ last.answer = .ok answer ∧
        answer.code ≠ some 0 ∧ code = answer.code ∧ output = answer.combined
  /-- The headers are unknown exactly when the compiler of an ordinary source succeeded and there
  is no report that can be read. -/
  unusable : (∀ entry ∈ log, ∀ e, entry.answer ≠ .error e) → ∀ source report,
    (∃ reason, result = .error (.reportUnusable source report reason)) ↔
      source = job.source ∧ report = job.report ∧ job.kind = .ordinary ∧
        ∃ entry ∈ log, entry.Succeeded ∧ ¬ HasReport entry.files job
  /-- There is a record only if every tool of the pipeline has succeeded. -/
  complete : ∀ record, result = .ok record →
    commandsOf log = pipeline s job ∧ ∀ entry ∈ log, entry.Succeeded
  /-- Every other error is about a file. -/
  fileAccess : ∀ e, result = .error e → (∀ entry ∈ log, entry.Succeeded) →
    (∃ reason, e = .reportUnusable job.source job.report reason) ∨
      ∃ path cause, e = .fileAccess path cause

/-- An ordinary source has one call. -/
theorem eq_nil_of_ordinary {s : Session} {job : CompileJob} {before : List LogEntry}
    {last : LogEntry} (hkind : job.kind = .ordinary)
    (hcalled : commandsOf (before ++ [last]) <+: pipeline s job) : before = [] := by
  have hlength := hcalled.length_le
  rw [pipeline, hkind, commandsOf, List.length_map, List.length_append] at hlength
  simp only [List.length_singleton] at hlength
  exact List.length_eq_zero_iff.1 (by omega)

/-- If all tools called have succeeded, only the report and the files can have gone wrong. -/
theorem explained_of_succeeded {s : Session} {job : CompileJob} {log : List LogEntry}
    {result : Except BuildError Record} (hcalled : commandsOf log <+: pipeline s job)
    (hok : ∀ entry ∈ log, entry.Succeeded)
    (hfile : ∀ e, result = .error e →
      (job.kind = .ordinary ∧ (∃ entry ∈ log, ¬ HasReport entry.files job) ∧
        ∃ reason, e = .reportUnusable job.source job.report reason) ∨
      ∃ path cause, e = .fileAccess path cause)
    (hreport : ∀ entry ∈ log, job.kind = .ordinary → ¬ HasReport entry.files job →
      ∃ reason, result = .error (.reportUnusable job.source job.report reason))
    (hcomplete : ∀ record, result = .ok record → commandsOf log = pipeline s job) :
    Explained s job log result where
  inOrder := hcalled
  succeeded := fun entry hentry => hok entry (List.dropLast_subset log hentry)
  refused := fun entry hentry e he => absurd (hok entry hentry) (LogEntry.not_succeeded_of_error he)
  failed := by
    rintro - source code output
    constructor
    · intro h
      obtain ⟨-, -, _, hreason⟩ | ⟨_, _, hcause⟩ := hfile _ h
      · cases hreason
      · cases hcause
    · rintro ⟨-, last, answer, hlast, hanswer, hcode, -⟩
      have hmem := List.mem_of_getLast? hlast
      exact absurd (hok last hmem) (LogEntry.not_succeeded_of_code hanswer hcode)
  unusable := by
    rintro - source report
    constructor
    · rintro ⟨reason, h⟩
      obtain ⟨hkind, ⟨entry, hentry, hno⟩, _, hreason⟩ | ⟨_, _, hcause⟩ := hfile _ h
      · cases hreason
        exact ⟨rfl, rfl, hkind, entry, hentry, hok entry hentry, hno⟩
      · cases hcause
    · rintro ⟨rfl, rfl, hkind, entry, hentry, -, hno⟩
      exact hreport entry hentry hkind hno
  complete := fun record hrecord => ⟨hcomplete record hrecord, hok⟩
  fileAccess := by
    rintro e he -
    obtain ⟨-, -, hreason⟩ | hcause := hfile e he
    · exact .inl hreason
    · exact .inr hcause

theorem Ended.explained {s : Session} {job : CompileJob} {log : List LogEntry}
    {result : Except BuildError Record} (h : Ended s job log result) :
    Explained s job log result := by
  cases h with
  | @noCall path cause =>
    refine explained_of_succeeded List.nil_prefix (by simp) ?_ (by simp) (by simp)
    rintro e ⟨⟩
    exact .inr ⟨path, cause, rfl⟩
  | @refused before last e hcalled hbefore hlast =>
    have hmem : last ∈ before ++ [last] := List.mem_append_right _ (List.mem_singleton_self last)
    refine ⟨hcalled, ?_, ?_, ?_, ?_, ?_, ?_⟩
    · rwa [List.dropLast_concat]
    · intro entry hentry e' he'
      rcases List.mem_append.1 hentry with hentry | hentry
      · exact absurd (hbefore entry hentry) (LogEntry.not_succeeded_of_error he')
      · rw [List.mem_singleton.1 hentry, hlast, Except.error.injEq] at he'
        rw [he']
    · exact fun hnone => absurd hlast (hnone last hmem e)
    · exact fun hnone => absurd hlast (hnone last hmem e)
    · rintro record ⟨⟩
    · exact fun _ _ hok => absurd (hok last hmem) (LogEntry.not_succeeded_of_error hlast)
  | @failed before last answer hcalled hbefore hlast hcode =>
    have hmem : last ∈ before ++ [last] := List.mem_append_right _ (List.mem_singleton_self last)
    have hfail := LogEntry.not_succeeded_of_code hlast hcode
    refine ⟨hcalled, ?_, ?_, ?_, ?_, ?_, ?_⟩
    · rwa [List.dropLast_concat]
    · intro entry hentry e' he'
      rcases List.mem_append.1 hentry with hentry | hentry
      · exact absurd (hbefore entry hentry) (LogEntry.not_succeeded_of_error he')
      · rw [List.mem_singleton.1 hentry, hlast] at he'
        cases he'
    · rintro - source code output
      rw [Except.error.injEq, BuildError.compileFailed.injEq]
      constructor
      · rintro ⟨rfl, rfl, rfl⟩
        exact ⟨rfl, last, answer, List.getLast?_concat, hlast, hcode, rfl, rfl⟩
      · rintro ⟨rfl, last', answer', hlast', hanswer', -, rfl, rfl⟩
        rw [List.getLast?_concat, Option.some.injEq] at hlast'
        rw [← hlast', hlast, Except.ok.injEq] at hanswer'
        exact ⟨rfl, by rw [hanswer'], by rw [hanswer']⟩
    · rintro - source report
      constructor
      · rintro ⟨reason, ⟨⟩⟩
      · rintro ⟨-, -, hkind, entry, hentry, hok, -⟩
        have hsingle := eq_nil_of_ordinary hkind hcalled
        subst hsingle
        rw [List.nil_append, List.mem_singleton] at hentry
        exact absurd (hentry ▸ hok) hfail
    · rintro record ⟨⟩
    · exact fun _ _ hok => absurd (hok last hmem) hfail
  | @reportUnusable last reason hkind hcommands hok hno =>
    refine explained_of_succeeded (hcommands ▸ List.prefix_rfl) (by simpa using hok) ?_ ?_ ?_
    · rintro e ⟨⟩
      exact .inl ⟨hkind, ⟨last, List.mem_singleton_self last, hno⟩, reason, rfl⟩
    · exact fun _ _ _ _ => ⟨reason, rfl⟩
    · rintro record ⟨⟩
  | allRan hcommands hok hreport hresult =>
    refine explained_of_succeeded (hcommands ▸ List.prefix_rfl) hok
      (fun e he => .inr (hresult e he)) ?_ fun _ _ => hcommands
    exact fun entry hentry hkind hno => absurd (hreport hkind entry hentry) hno

/-- **A compile calls the tools of its pipeline in their order**, or the first of them, or none. -/
theorem compile_calls (s : Session) (runner : ToolRunner σ) (arch : Architecture)
    (job : CompileJob) (w : Workshop σ) : ∃ commands,
      (compile s runner arch job w).2.calls = w.calls ++ commands ∧ commands <+: pipeline s job := by
  rw [compile, Session.checkArchitecture]
  by_cases harch : (arch == s.arch) = true
  · rw [if_pos harch]
    have hstart : Stage s job w.database [] w .start := ⟨rfl, rfl⟩
    obtain ⟨log, -, hended, -, hcalls⟩ := finish_stage runner hstart (List.append_nil w.calls).symm
    exact ⟨commandsOf log, hcalls, hended.explained.inOrder⟩
  · rw [if_neg harch]
    exact ⟨[], (List.append_nil w.calls).symm, List.nil_prefix⟩

/-- **What a compile does can be read off its log.** For another architecture nothing is done. For
the session's own, the log of the answers explains the result, the commands in it are the calls
made, and the database has the entry of an ordinary source whose compiler succeeded, whatever came
of its report, and is otherwise what it was. -/
theorem compile_explained (s : Session) (runner : ToolRunner σ) (arch : Architecture)
    (job : CompileJob) (w : Workshop σ) :
    (arch ≠ s.arch →
      compile s runner arch job w = (.error (.wrongArchitecture s.arch arch), w)) ∧
    (arch = s.arch → ∃ log,
      compile s runner.logged arch job (w.withLog []) = ((compile s runner arch job w).1,
        (compile s runner arch job w).2.withLog log) ∧
      (compile s runner arch job w).2.calls = w.calls ++ commandsOf log ∧
      Explained s job log (compile s runner arch job w).1 ∧
      Recorded s job w.database log (compile s runner arch job w).2.database) := by
  constructor
  · intro harch
    rw [compile, Session.checkArchitecture, if_neg (by simpa using harch)]
  · rintro rfl
    have hcheck : s.checkArchitecture s.arch = .ok () := by simp [Session.checkArchitecture]
    have hstart : Stage s job w.database [] w .start := ⟨rfl, rfl⟩
    obtain ⟨log, hlogged, hended, hrecorded, hcalls⟩ :=
      finish_stage runner hstart (List.append_nil w.calls).symm
    simp only [compile, hcheck]
    exact ⟨log, hlogged, hcalls, hended.explained, hrecorded⟩

end Clinker.Compile

import Clinker.Proofs.Link.ResponseFile
import Clinker.Proofs.Workshop.Log

/-!
# Which tool a link runs, and what it makes of the answer

Linking first makes the files for its call ready and then makes the call (`link_eq`); if they
cannot be made ready there is none. The result is what the tool answered (`runTool_cases`), so it
can be read off the log (`link_explained`).

An archive is made of objects only. Whatever else a job says has no influence on it
(`link_static_congr`), and no name of a subsystem makes the options of an archive fail
(`ofNames_static`).
-/

namespace Clinker.Link

variable {σ : Type}

/-! ## Before the call -/

/-- Make the files for the call of a job ready: the directory of the target, and the response file
of a long command. The result is the command to run. -/
def ready (s : Session) (job : LinkJob) (files : FileSystem) (limits : Limits) :
    Except BuildError Command × FileSystem :=
  match files.createParent job.target limits with
  | (.error cause, files) => (.error (.fileAccess job.target cause), files)
  | (.ok (), files) => prepare (commandFor s job) job.target files limits

/-- **A link is made ready and then makes one call.** -/
theorem link_eq (s : Session) (runner : ToolRunner σ) (job : LinkJob) (w : Workshop σ) :
    link s runner s.arch job w =
      match ready s job w.files w.limits with
      | (.error e, files) => (.error e, w.withFiles files)
      | (.ok c, files) => runTool runner job c (w.withFiles files) := by
  have hcheck : s.checkArchitecture s.arch = .ok () := by simp [Session.checkArchitecture]
  simp only [link, ready, hcheck]
  rcases w.files.createParent job.target w.limits with ⟨_ | _, files⟩ <;> rfl

section Ready

variable {s : Session} {job : LinkJob} {files left : FileSystem} {limits : Limits}
  {cause : SystemError} {c : Command} {e : BuildError}

theorem ready_of_noDirectory (h : (files.createParent job.target limits).1 = .error cause) :
    (ready s job files limits).1 = .error (.fileAccess job.target cause) := by
  unfold ready
  rcases hparent : files.createParent job.target limits with ⟨cause' | _, left⟩
  · rw [hparent, Except.error.injEq] at h
    rw [← h]
  · rw [hparent] at h
    cases h

theorem ready_of_noResponseFile {refusal : Refusal}
    (hparent : files.createParent job.target limits = (.ok (), left))
    (hlong : maxLineBytes < (commandFor s job).line.utf8ByteSize)
    (hwrite : left.writeText (responseFile job.target) (responseText (commandFor s job)) limits =
      .error refusal) : ready s job files limits =
    (.error (.fileAccess (responseFile job.target) refusal.cause), refusal.left) := by
  simp only [ready, hparent, prepare, if_neg (Nat.not_le.2 hlong), hwrite]

/-- Only files can be in the way. -/
theorem ready_error (h : ready s job files limits = (.error e, left)) :
    ∃ path cause, e = .fileAccess path cause := by
  unfold ready at h
  rcases hparent : files.createParent job.target limits with ⟨cause | _, made⟩
  · simp only [hparent, Prod.mk.injEq, Except.error.injEq] at h
    exact ⟨_, _, h.1.symm⟩
  · rw [hparent] at h
    obtain ⟨cause, rfl⟩ := prepare_eq_error h
    exact ⟨_, cause, rfl⟩

/-- What is made ready is the job's command or the command with its response file, as the length of
the line says. -/
theorem command_of_ready (h : ready s job files limits = (.ok c, left)) :
    c = commandFor s job ∧ (commandFor s job).line.utf8ByteSize ≤ maxLineBytes ∨
      c = viaResponseFile (commandFor s job) job.target ∧
        maxLineBytes < (commandFor s job).line.utf8ByteSize := by
  unfold ready at h
  rcases hparent : files.createParent job.target limits with ⟨cause | _, made⟩
  · rw [hparent] at h
    cases h
  · rw [hparent] at h
    exact prepare_eq_ok h

/-- What is made ready is a command with the program of the job's command. -/
theorem program_of_ready (h : ready s job files limits = (.ok c, left)) :
    c.program = (commandFor s job).program := by
  obtain ⟨rfl, -⟩ | ⟨rfl, -⟩ := command_of_ready h
  · rfl
  · rfl

/-- Where the directory and the response file can be written, there is a command to run. -/
theorem ready_of_writable (hparent : files.createParent job.target limits = (.ok (), left))
    (hwrite : maxLineBytes < (commandFor s job).line.utf8ByteSize → ∃ written,
      left.writeText (responseFile job.target) (responseText (commandFor s job)) limits =
        .ok written) :
    ∃ c found, ready s job files limits = (.ok c, found) := by
  rcases Nat.lt_or_ge maxLineBytes (commandFor s job).line.utf8ByteSize with hlong | hshort
  · obtain ⟨written, hwritten⟩ := hwrite hlong
    refine ⟨viaResponseFile (commandFor s job) job.target, written, ?_⟩
    simp only [ready, hparent, prepare_of_lt hlong hwritten]
  · refine ⟨commandFor s job, left, ?_⟩
    simp only [ready, hparent, prepare_of_le hshort]

end Ready

theorem program_commandFor (s : Session) (job : LinkJob) :
    (commandFor s job).program =
      if job.options.artifact = .staticLibrary then s.tools.archiver else s.tools.linker := by
  unfold commandFor
  cases job.options.artifact <;> rfl

/-- **A link makes at most one call**, to the archiver for a static library and to the linker for
everything else. -/
theorem link_calls (s : Session) (runner : ToolRunner σ) (job : LinkJob) (w : Workshop σ) :
    ∃ commands, (link s runner s.arch job w).2.calls = w.calls ++ commands ∧
      commands.length ≤ 1 ∧ ∀ c ∈ commands, c.program =
        if job.options.artifact = .staticLibrary then s.tools.archiver else s.tools.linker := by
  rw [link_eq]
  rcases hready : ready s job w.files w.limits with ⟨e | c, found⟩
  · exact ⟨[], (List.append_nil w.calls).symm, Nat.zero_le 1, by simp⟩
  · refine ⟨[c], rfl, Nat.le_refl 1, fun c' hc => ?_⟩
    rw [List.mem_singleton.1 hc, program_of_ready hready, program_commandFor]

/-- **A link calls the command of its job**, or this command with its response file, or nothing. -/
theorem link_calls_commandFor (s : Session) (runner : ToolRunner σ) (arch : Architecture)
    (job : LinkJob) (w : Workshop σ) : ∃ commands,
      (link s runner arch job w).2.calls = w.calls ++ commands ∧ ∀ c ∈ commands,
        c = commandFor s job ∨ c = viaResponseFile (commandFor s job) job.target := by
  by_cases harch : arch = s.arch
  · subst harch
    rw [link_eq]
    rcases hready : ready s job w.files w.limits with ⟨e | c, found⟩
    · exact ⟨[], (List.append_nil w.calls).symm, by simp⟩
    · refine ⟨[c], rfl, fun c' hc => ?_⟩
      rw [List.mem_singleton.1 hc]
      exact (command_of_ready hready).imp And.left And.left
  · rw [link, Session.checkArchitecture, if_neg (by simpa using harch)]
    exact ⟨[], (List.append_nil w.calls).symm, by simp⟩

/-! ## The answer -/

/-- What a log of a link says about its result, and the result about the log. -/
structure Explained (s : Session) (job : LinkJob) (files : FileSystem) (limits : Limits)
    (log : List LogEntry) (result : Except BuildError Path) : Prop where
  /-- There is at most one call. -/
  once : log.length ≤ 1
  /-- It is to the archiver for a static library and to the linker for everything else. -/
  tool : ∀ entry ∈ log, entry.command.program =
    if job.options.artifact = .staticLibrary then s.tools.archiver else s.tools.linker
  /-- There is none without the directory of the target. -/
  noDirectory : ∀ cause, (files.createParent job.target limits).1 = .error cause →
    log = [] ∧ result = .error (.fileAccess job.target cause)
  /-- There is none without the response file of a long command. -/
  noResponseFile : ∀ left refusal, files.createParent job.target limits = (.ok (), left) →
    maxLineBytes < (commandFor s job).line.utf8ByteSize →
    left.writeText (responseFile job.target) (responseText (commandFor s job)) limits =
      .error refusal →
    log = [] ∧ result = .error (.fileAccess (responseFile job.target) refusal.cause)
  /-- There is one if these can be written. -/
  called : ∀ left, files.createParent job.target limits = (.ok (), left) →
    (maxLineBytes < (commandFor s job).line.utf8ByteSize → ∃ written,
      left.writeText (responseFile job.target) (responseText (commandFor s job)) limits =
        .ok written) →
    log.length = 1
  /-- The artifact is linked exactly when the tool exited with code 0. -/
  linked : ∀ path, result = .ok path ↔ path = job.target ∧ ∃ entry ∈ log, entry.Succeeded
  /-- An error of the runner is the result. -/
  refused : ∀ entry ∈ log, ∀ e, entry.answer = .error e → result = .error e
  /-- The link failed exactly when the tool exited with another code than 0. -/
  failed : (∀ entry ∈ log, ∀ e, entry.answer ≠ .error e) → ∀ target code output,
    result = .error (.linkFailed target code output) ↔ target = job.target ∧
      ∃ entry ∈ log, ∃ answer, entry.answer = .ok answer ∧ answer.code ≠ some 0 ∧
        code = answer.code ∧ output = answer.combined

/-- The artifact is there only if the tool is not refused and exits with code 0. -/
theorem runTool_cases (runner : ToolRunner σ) (job : LinkJob) (c : Command) (w : Workshop σ) :
    (∃ e, (w.entryOf runner c).answer = .error e ∧
      (runTool runner job c w).1 = .error e) ∨
    (∃ answer, (w.entryOf runner c).answer = .ok answer ∧ answer.code ≠ some 0 ∧
      (runTool runner job c w).1 =
        .error (.linkFailed job.target answer.code answer.combined)) ∨
    ∃ answer, (w.entryOf runner c).answer = .ok answer ∧ answer.code = some 0 ∧
      (runTool runner job c w).1 = .ok job.target := by
  have hentry : (w.call runner c).1 = (w.entryOf runner c).answer := rfl
  obtain ⟨e, hanswer⟩ | ⟨answer, hanswer, hcode, hok⟩ | ⟨answer, hanswer, hcode, hok⟩ :=
    (w.entryOf runner c).answer_cases
  · refine .inl ⟨e, hanswer, ?_⟩
    simp only [runTool, hentry, hanswer, Except.bind]
  · refine .inr (.inl ⟨answer, hanswer, hcode, ?_⟩)
    simp only [runTool, hentry, hanswer, Except.bind, hok, Bool.false_eq_true, if_false]
  · refine .inr (.inr ⟨answer, hanswer, hcode, ?_⟩)
    simp only [runTool, hentry, hanswer, Except.bind, hok, if_true]

/-- Without a call the result is the error of what could not be made ready. -/
theorem explained_of_ready_error {s : Session} {job : LinkJob} {files left : FileSystem}
    {limits : Limits} {e : BuildError} (h : ready s job files limits = (.error e, left)) :
    Explained s job files limits [] (.error e) where
  once := Nat.zero_le 1
  tool := fun _ hmem => absurd hmem List.not_mem_nil
  noDirectory := by
    intro cause hparent
    have hready : (ready s job files limits).1 = _ := ready_of_noDirectory hparent
    simp only [h, Except.error.injEq] at hready
    exact ⟨rfl, congrArg _ hready⟩
  noResponseFile := by
    intro made refusal hparent hlong hwrite
    rw [ready_of_noResponseFile hparent hlong hwrite] at h
    cases h
    exact ⟨rfl, rfl⟩
  called := by
    intro made hparent hwrite
    obtain ⟨c, found, hready⟩ := ready_of_writable hparent hwrite
    rw [h] at hready
    cases hready
  linked := by
    intro path
    refine ⟨nofun, ?_⟩
    rintro ⟨-, entry, hentry, -⟩
    exact absurd hentry List.not_mem_nil
  refused := fun _ hmem => absurd hmem List.not_mem_nil
  failed := by
    rintro - target code output
    constructor
    · intro hfailed
      obtain ⟨path, cause, rfl⟩ := ready_error h
      cases hfailed
    · rintro ⟨-, entry, hentry, -⟩
      exact absurd hentry List.not_mem_nil

/-- With a call the result is what the tool answered. -/
theorem explained_of_call {s : Session} {job : LinkJob} {c : Command} {files found : FileSystem}
    {limits : Limits} (h : ready s job files limits = (.ok c, found)) (runner : ToolRunner σ)
    (w : Workshop σ) :
    Explained s job files limits [w.entryOf runner c] (runTool runner job c w).1 where
  once := Nat.le_refl 1
  tool := by
    intro entry hentry
    rw [List.mem_singleton.1 hentry, Workshop.command_entryOf, program_of_ready h,
      program_commandFor]
  noDirectory := by
    intro cause hparent
    have hready : (ready s job files limits).1 = _ := ready_of_noDirectory hparent
    rw [h] at hready
    cases hready
  noResponseFile := by
    intro made refusal hparent hlong hwrite
    rw [ready_of_noResponseFile hparent hlong hwrite] at h
    cases h
  called := fun _ _ _ => rfl
  linked := by
    intro path
    simp only [List.mem_singleton, exists_eq_left]
    obtain ⟨e, hanswer, hresult⟩ | ⟨answer, hanswer, hcode, hresult⟩ |
      ⟨answer, hanswer, hcode, hresult⟩ := runTool_cases runner job c w
    · rw [hresult]
      exact ⟨nofun, fun h => absurd h.2 (LogEntry.not_succeeded_of_error hanswer)⟩
    · rw [hresult]
      exact ⟨nofun,
        fun h => absurd h.2 (LogEntry.not_succeeded_of_code hanswer hcode)⟩
    · rw [hresult, Except.ok.injEq]
      exact ⟨fun h => ⟨h.symm, answer, hanswer, hcode⟩, fun h => h.1.symm⟩
  refused := by
    intro entry hentry e he
    rw [List.mem_singleton.1 hentry] at he
    obtain ⟨e', hanswer, hresult⟩ | ⟨answer, hanswer, -, -⟩ | ⟨answer, hanswer, -, -⟩ :=
      runTool_cases runner job c w
    · rw [hanswer, Except.error.injEq] at he
      rw [hresult, he]
    · rw [hanswer] at he
      cases he
    · rw [hanswer] at he
      cases he
  failed := by
    intro hnone target code output
    simp only [List.mem_singleton, exists_eq_left]
    obtain ⟨e, hanswer, -⟩ | ⟨answer, hanswer, hcode, hresult⟩ |
      ⟨answer, hanswer, hcode, hresult⟩ := runTool_cases runner job c w
    · exact absurd hanswer (hnone _ (List.mem_singleton_self _) e)
    · rw [hresult, Except.error.injEq, BuildError.linkFailed.injEq, hanswer]
      constructor
      · rintro ⟨rfl, rfl, rfl⟩
        exact ⟨rfl, answer, rfl, hcode, rfl, rfl⟩
      · rintro ⟨rfl, answer', hanswer', -, rfl, rfl⟩
        rw [Except.ok.injEq] at hanswer'
        rw [hanswer']
        exact ⟨rfl, rfl, rfl⟩
    · rw [hresult, hanswer]
      refine ⟨nofun, ?_⟩
      rintro ⟨-, answer', hanswer', hcode', -⟩
      rw [Except.ok.injEq] at hanswer'
      exact absurd (hanswer' ▸ hcode) hcode'

/-! ## Archives -/

/-- **An archive is made of its target and its objects.** -/
theorem link_static_congr {job job' : LinkJob} (h : job.options.artifact = .staticLibrary)
    (h' : job'.options.artifact = .staticLibrary) (htarget : job'.target = job.target)
    (hobjects : job'.objects = job.objects) (s : Session) (runner : ToolRunner σ)
    (arch : Architecture) (w : Workshop σ) :
    link s runner arch job' w = link s runner arch job w := by
  have hcommand : commandFor s job' = commandFor s job := by
    simp only [commandFor, h, h', archiveCommand, htarget, hobjects]
  have hrun : ∀ c w, runTool runner job' c w = runTool runner job c w := by
    intro c w
    simp only [runTool, htarget]
  simp only [link, hcommand, htarget, hrun]

/-- No name of a subsystem makes the options of an archive fail. -/
theorem ofNames_static {name : String} (h : ArtifactKind.ofName name = .ok .staticLibrary)
    (subsystem : Option String) : ∃ options, LinkOptions.ofNames name subsystem = .ok options ∧
      options.artifact = .staticLibrary := by
  refine ⟨⟨.staticLibrary, .console, [], none⟩, ?_, rfl⟩
  rw [LinkOptions.ofNames, h]
  rfl

/-! ## Whole links -/

/-- **What a link does can be read off its log.** For another architecture nothing is done. For the
session's own, the log of the answers explains the result, and the commands in it are the calls
made. A static library is linked in the same way whatever else than its target and its objects the
job says, also when its options come from names, of which that of the subsystem may be any. -/
theorem link_explained (s : Session) (runner : ToolRunner σ) (arch : Architecture)
    (job : LinkJob) (w : Workshop σ) :
    (arch ≠ s.arch → link s runner arch job w = (.error (.wrongArchitecture s.arch arch), w)) ∧
    (arch = s.arch → ∃ log,
      link s runner.logged arch job (w.withLog []) =
        ((link s runner arch job w).1, (link s runner arch job w).2.withLog log) ∧
      (link s runner arch job w).2.calls = w.calls ++ commandsOf log ∧
      Explained s job w.files w.limits log (link s runner arch job w).1) ∧
    (job.options.artifact = .staticLibrary →
      (∀ job' : LinkJob, job'.options.artifact = .staticLibrary → job'.target = job.target →
        job'.objects = job.objects → link s runner arch job' w = link s runner arch job w) ∧
      ∀ name, ArtifactKind.ofName name = .ok .staticLibrary → ∀ subsystem, ∃ options,
        LinkOptions.ofNames name subsystem = .ok options ∧
          link s runner arch { job with options := options } w = link s runner arch job w) := by
  refine ⟨fun harch => ?_, ?_, fun hstatic => ⟨fun job' h' htarget hobjects => ?_, ?_⟩⟩
  · rw [link, Session.checkArchitecture, if_neg (by simpa using harch)]
  · rintro rfl
    rw [link_eq, link_eq, Workshop.files_withLog, Workshop.limits_withLog]
    rcases hready : ready s job w.files w.limits with ⟨e | c, found⟩
    · exact ⟨[], rfl, (List.append_nil w.calls).symm, explained_of_ready_error hready⟩
    · exact ⟨_, rfl, rfl, explained_of_call hready runner (w.withFiles found)⟩
  · exact link_static_congr hstatic h' htarget hobjects s runner arch w
  · intro name hname subsystem
    obtain ⟨options, hoptions, hkind⟩ := ofNames_static hname subsystem
    have hrenamed : ({ job with options := options } : LinkJob).options.artifact =
        .staticLibrary := hkind
    exact ⟨options, hoptions, link_static_congr hstatic hrenamed rfl rfl s runner arch w⟩

end Clinker.Link

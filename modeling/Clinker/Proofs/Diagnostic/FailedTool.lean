import Clinker.Proofs.Compile.Calls
import Clinker.Proofs.Link.Calls
import Clinker.Proofs.Text.InkedLines

/-!
# What is shown of a tool that failed

A tool writes two texts. They are made one before they are shown as lines, and the seam depends on
which of them is blank. The lines with ink do not see the seam: they are those of the first text and
then those of the second (`ToolOutput.inked_lines_combined`). So whenever a tool exits with another
code than 0, the diagnostic of the compile or the link that ran it shows every line the tool wrote,
once and in order (`context_of_failed`).
-/

namespace Clinker

open Text (Lines inked)

variable {σ : Type}

/-! ## Two texts as one -/

/-- **The seam is not seen.** -/
theorem ToolOutput.inked_lines_combined (o : ToolOutput) :
    inked (Text.lines o.combined.toList) =
      inked (Text.lines o.stdout.toList) ++ inked (Text.lines o.stderr.toList) := by
  unfold combined
  split
  · next hout => rw [Text.inked_lines_of_forall (Text.isBlank_iff.1 hout), List.nil_append]
  · split
    · next herr => rw [Text.inked_lines_of_forall (Text.isBlank_iff.1 herr), List.append_nil]
    · have htext : (Text.trimEnd o.stdout ++ "\n" ++ o.stderr).toList =
          Text.trimEndChars o.stdout.toList ++ '\n' :: o.stderr.toList := by
        simp [Text.trimEnd]
      rw [htext, Text.inked_lines_append, Text.inked_lines_trimEndChars]

theorem ToolOutput.map_trimEnd_combined {o : ToolOutput} {out err : List (List Char)}
    (hout : Lines o.stdout.toList out) (herr : Lines o.stderr.toList err) :
    (Text.inkedLines o.combined).map Text.trimEnd =
      (inked out ++ inked err).map String.ofList := by
  rw [Text.map_trimEnd_inkedLines, o.inked_lines_combined, Text.lines_eq_iff.2 hout,
    Text.lines_eq_iff.2 herr]

theorem BuildError.context_compileFailed (source : Path) (code : Option Int) (output : String) :
    (compileFailed source code output).diagnostic.context =
      (Text.inkedLines output).map Text.trimEnd := rfl

theorem BuildError.context_linkFailed (target : Path) (code : Option Int) (output : String) :
    (linkFailed target code output).diagnostic.context =
      (Text.inkedLines output).map Text.trimEnd := rfl

/-! ## What became of an answer -/

/-- What the tools answered, by the log of the runner. -/
def Workshop.answers (w : Workshop (σ × List LogEntry)) : List (Except BuildError ToolOutput) :=
  w.memory.2.map (·.answer)

@[simp] theorem Workshop.answers_withLog (w : Workshop σ) (log : List LogEntry) :
    (w.withLog log).answers = log.map (·.answer) := rfl

/-- An answer with another code than 0 is the last one. -/
theorem Compile.Ended.eq_compileFailed {s : Session} {job : CompileJob} {log : List LogEntry}
    {result : Except BuildError Dependency.Record} (h : Ended s job log result) {o : ToolOutput}
    (hcode : o.code ≠ some 0) {entry : LogEntry} (hentry : entry ∈ log)
    (hanswer : entry.answer = .ok o) :
    result = .error (.compileFailed job.source o.code o.combined) := by
  have hnot : ¬ entry.Succeeded := LogEntry.not_succeeded_of_code hanswer hcode
  cases h with
  | noCall => exact absurd hentry List.not_mem_nil
  | refused hcalled hbefore hlast =>
    rcases List.mem_append.1 hentry with hmem | hmem
    · exact absurd (hbefore entry hmem) hnot
    · rw [List.mem_singleton.1 hmem, hlast] at hanswer
      cases hanswer
  | failed hcalled hbefore hlast =>
    rcases List.mem_append.1 hentry with hmem | hmem
    · exact absurd (hbefore entry hmem) hnot
    · rw [List.mem_singleton.1 hmem, hlast, Except.ok.injEq] at hanswer
      rw [hanswer]
  | reportUnusable hkind hcalled hlast => exact absurd (List.mem_singleton.1 hentry ▸ hlast) hnot
  | allRan hcalled hall => exact absurd (hall entry hentry) hnot

theorem Compile.compile_of_failed {s : Session} {runner : ToolRunner σ} {arch : Architecture}
    {job : CompileJob} {w : Workshop σ} {o : ToolOutput} (hcode : o.code ≠ some 0)
    (h : .ok o ∈ (compile s runner.logged arch job (w.withLog [])).2.answers) :
    (compile s runner arch job w).1 =
      .error (.compileFailed job.source o.code o.combined) := by
  unfold compile at h ⊢
  cases hcheck : s.checkArchitecture arch with
  | error e =>
    rw [hcheck] at h
    cases h
  | ok =>
    have hstart : Stage s job w.database [] w .start := ⟨rfl, rfl⟩
    obtain ⟨log, hlogged, hended, -, -⟩ :=
      finish_stage runner hstart (List.append_nil w.calls).symm
    rw [hcheck] at h
    simp only [hlogged, Workshop.answers_withLog, List.mem_map] at h
    obtain ⟨entry, hentry, hanswer⟩ := h
    exact hended.eq_compileFailed hcode hentry hanswer

theorem Link.link_of_failed {s : Session} {runner : ToolRunner σ} {arch : Architecture}
    {job : LinkJob} {w : Workshop σ} {o : ToolOutput} (hcode : o.code ≠ some 0)
    (h : .ok o ∈ (link s runner.logged arch job (w.withLog [])).2.answers) :
    (link s runner arch job w).1 = .error (.linkFailed job.target o.code o.combined) := by
  by_cases harch : arch = s.arch
  · subst harch
    rw [link_eq, Workshop.files_withLog, Workshop.limits_withLog] at h
    rw [link_eq]
    rcases hready : ready s job w.files w.limits with ⟨e | c, files⟩
    · rw [hready] at h
      cases h
    · have hanswer : .ok o = ((w.withFiles files).entryOf runner c).answer := by
        rw [hready] at h
        exact List.mem_singleton.1 h
      obtain ⟨e, hother, -⟩ | ⟨answer, hother, -, hresult⟩ | ⟨answer, hother, hzero, -⟩ :=
        runTool_cases runner job c (w.withFiles files)
      · rw [hother] at hanswer
        cases hanswer
      · rw [hother, Except.ok.injEq] at hanswer
        exact hanswer ▸ hresult
      · rw [hother, Except.ok.injEq] at hanswer
        exact absurd (hanswer ▸ hzero) hcode
  · rw [link, Session.checkArchitecture, if_neg (by simpa using harch)] at h
    cases h

/-- **No line of a failing tool is lost.** Whenever a tool run by a compile or a link exits with
another code than 0 or is killed, the result is the error of that compile or link, and its
diagnostic shows the lines of standard output that are not blank and then those of standard error,
each without the white space at its end. -/
theorem context_of_failed {o : ToolOutput} (hcode : o.code ≠ some 0) {out err : List (List Char)}
    (hout : Lines o.stdout.toList out) (herr : Lines o.stderr.toList err)
    (s : Session) (runner : ToolRunner σ) (arch : Architecture) (w : Workshop σ) :
    (∀ job, .ok o ∈ (Compile.compile s runner.logged arch job (w.withLog [])).2.answers →
      ∃ output, (Compile.compile s runner arch job w).1 =
          .error (.compileFailed job.source o.code output) ∧
        (BuildError.compileFailed job.source o.code output).diagnostic.context =
          (inked out ++ inked err).map String.ofList) ∧
    ∀ job, .ok o ∈ (Link.link s runner.logged arch job (w.withLog [])).2.answers →
      ∃ output, (Link.link s runner arch job w).1 =
          .error (.linkFailed job.target o.code output) ∧
        (BuildError.linkFailed job.target o.code output).diagnostic.context =
          (inked out ++ inked err).map String.ofList := by
  constructor
  · intro job h
    refine ⟨o.combined, Compile.compile_of_failed hcode h, ?_⟩
    rw [BuildError.context_compileFailed, ToolOutput.map_trimEnd_combined hout herr]
  · intro job h
    refine ⟨o.combined, Link.link_of_failed hcode h, ?_⟩
    rw [BuildError.context_linkFailed, ToolOutput.map_trimEnd_combined hout herr]

/-! ### A tool that is killed -/

/-- What a tool wrote before it was killed. -/
def killed : ToolOutput := ⟨none, "a.cpp(1): error\t\r\n \n\u3000b  ", "\n\nc\r"⟩

def killedTool : ToolRunner Unit where
  run _ memory files := (.ok killed, memory, files)

/-- An empty folder. -/
def emptyFolder : Workshop Unit := .start ⟨[], []⟩ () none

def plainJob : CompileJob := ⟨⟨"a.cpp"⟩, ⟨"a.obj"⟩, ⟨"a.d"⟩, [], [], [], .dynamic⟩

theorem context_of_killed : killed.code ≠ some 0 ∧
    Lines killed.stdout.toList ["a.cpp(1): error\t".toList, [' '], "\u3000b  ".toList] ∧
    Lines killed.stderr.toList [[], [], "c\r".toList] ∧
    .ok killed ∈ (Compile.compile Link.sampleSession killedTool.logged .x64 plainJob
      (emptyFolder.withLog [])).2.answers ∧
    .ok killed ∈ (Link.link Link.sampleSession killedTool.logged .x64 (Link.longArchive 1)
      (emptyFolder.withLog [])).2.answers ∧
    (∃ output, (Compile.compile Link.sampleSession killedTool .x64 plainJob emptyFolder).1 =
        .error (.compileFailed ⟨"a.cpp"⟩ none output) ∧
      (BuildError.compileFailed ⟨"a.cpp"⟩ none output).diagnostic.context =
        ["a.cpp(1): error", "\u3000b", "c"]) ∧
    ∃ output, (Link.link Link.sampleSession killedTool .x64 (Link.longArchive 1) emptyFolder).1 =
        .error (.linkFailed ⟨"big.lib"⟩ none output) ∧
      (BuildError.linkFailed ⟨"big.lib"⟩ none output).diagnostic.context =
        ["a.cpp(1): error", "\u3000b", "c"] := by
  have hcode : killed.code ≠ some 0 := by decide
  have hout : Lines killed.stdout.toList
      ["a.cpp(1): error\t".toList, [' '], "\u3000b  ".toList] :=
    Text.lines_eq_iff.1 (by decide +kernel)
  have herr : Lines killed.stderr.toList [[], [], "c\r".toList] :=
    Text.lines_eq_iff.1 (by decide +kernel)
  have hcompiled : .ok killed ∈ (Compile.compile Link.sampleSession killedTool.logged .x64 plainJob
      (emptyFolder.withLog [])).2.answers := by decide +kernel
  have hlinked : .ok killed ∈ (Link.link Link.sampleSession killedTool.logged .x64
      (Link.longArchive 1) (emptyFolder.withLog [])).2.answers := by decide +kernel
  have hinked : (inked ["a.cpp(1): error\t".toList, [' '], "\u3000b  ".toList] ++
      inked [[], [], "c\r".toList]).map String.ofList = ["a.cpp(1): error", "\u3000b", "c"] := by
    decide +kernel
  have hshown := context_of_failed hcode hout herr Link.sampleSession killedTool .x64 emptyFolder
  rw [hinked] at hshown
  exact ⟨hcode, hout, herr, hcompiled, hlinked, hshown.1 _ hcompiled, hshown.2 _ hlinked⟩

end Clinker

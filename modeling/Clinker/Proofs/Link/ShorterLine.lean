import Clinker.Proofs.Link.Calls

/-!
# A response file shortens the command line

The line with the response file names the target again, so it could itself be long. It is still
shorter than the line it replaces. That line has an argument `/OUT:` with the target, which is
written no shorter than `@` with the target and `.rsp`: the characters around the target are as
many bytes, and at its end they spare a run of backslashes the doubling
(`utf8ByteSize_quote_responseArg_le`). And it has more arguments than this one.
-/

namespace Clinker.Link

variable {σ : Type}

/-! ## The two lines -/

/-- The argument with the response file is written no longer than the one with the target. -/
theorem utf8ByteSize_quote_responseArg_le (target : Path) :
    (CommandLine.quote ("@" ++ (responseFile target).text)).utf8ByteSize ≤
      (CommandLine.quote ("/OUT:" ++ target.text)).utf8ByteSize := by
  have hat : "@".toList.all CommandLine.isOrdinary = true := by decide
  have hout : "/OUT:".toList.all CommandLine.isOrdinary = true := by decide
  have hrsp : ".rsp".toList.all CommandLine.isOrdinary = true := by decide
  rw [List.all_eq_true] at hat hout hrsp
  have hle := CommandLine.utf8Len_quoteChars_surround_le hat (by decide) hout (by decide) hrsp
    (by decide) target.text.toList
  simpa only [CommandLine.utf8ByteSize_quote, responseFile, Path.text_suffixed, String.toList_append,
    List.append_assoc] using hle

/-- **The response file makes the line shorter.** -/
theorem utf8ByteSize_line_viaResponseFile_lt {c : Command} {target : Path}
    (hout : "/OUT:" ++ target.text ∈ c.args)
    (hmore : 2 ≤ c.args.length) :
    (viaResponseFile c target).line.utf8ByteSize < c.line.utf8ByteSize := by
  have hle := utf8ByteSize_quote_responseArg_le target
  have hlt := CommandLine.utf8ByteSize_quote_lt_join hout hmore
  have hne : c.args ≠ [] := List.ne_nil_of_mem hout
  obtain ⟨first, rest, hargs⟩ := List.exists_cons_of_ne_nil hne
  have hline : c.line.utf8ByteSize =
      (CommandLine.quote c.program.text).utf8ByteSize + 1 +
        (CommandLine.join c.args).utf8ByteSize := by
    rw [Command.line, hargs, CommandLine.utf8ByteSize_join_cons_cons]
  have hresponse : (viaResponseFile c target).line.utf8ByteSize =
      (CommandLine.quote c.program.text).utf8ByteSize + 1 +
        (CommandLine.quote ("@" ++ (responseFile target).text)).utf8ByteSize :=
    CommandLine.utf8ByteSize_join_cons_cons _ _ []
  omega

/-- The command of a job says where its target is, and says more than that. -/
theorem out_mem_args (s : Session) (job : LinkJob) :
    "/OUT:" ++ job.target.text ∈ (commandFor s job).args ∧ 2 ≤ (commandFor s job).args.length := by
  unfold commandFor
  cases job.options.artifact with
  | staticLibrary =>
    simp only [archiveCommand, Session.command, Command.plain]
    constructor
    · simp
    · simp only [List.length_append, List.length_cons]
      omega
  | dynamicLibrary | executable =>
    simp only [linkCommand, Session.command, Command.plain]
    constructor
    · simp
    · simp only [List.length_append, List.length_cons]
      omega

/-- **A line that goes through a response file is shorter than the one it replaces.** -/
theorem utf8ByteSize_line_lt (s : Session) (job : LinkJob) :
    (viaResponseFile (commandFor s job) job.target).line.utf8ByteSize <
      (commandFor s job).line.utf8ByteSize :=
  utf8ByteSize_line_viaResponseFile_lt (out_mem_args s job).1 (out_mem_args s job).2

/-! ## The line of a link -/

/-- **A link runs a short line or a shortened one.** It makes one call, unless it is for another
architecture or its files cannot be made ready. Either the line of the job's command has at most
8000 bytes and the command is run as it is, or the line is longer and the command is run with its
response file, on a line that is shorter. -/
theorem link_line_short (s : Session) (runner : ToolRunner σ) (arch : Architecture) (job : LinkJob)
    (w : Workshop σ) :
    (∃ e, (link s runner arch job w).1 = .error e ∧
      (link s runner arch job w).2.calls = w.calls ∧
      (arch ≠ s.arch ∨ ∃ path cause, e = .fileAccess path cause)) ∨
    ∃ c, (link s runner arch job w).2.calls = w.calls ++ [c] ∧
      (c = commandFor s job ∧ c.line.utf8ByteSize ≤ 8000 ∨
        c = viaResponseFile (commandFor s job) job.target ∧
          8000 < (commandFor s job).line.utf8ByteSize ∧
          c.line.utf8ByteSize < (commandFor s job).line.utf8ByteSize) := by
  by_cases harch : arch = s.arch
  · subst harch
    rw [link_eq]
    rcases hready : ready s job w.files w.limits with ⟨e | c, found⟩
    · exact .inl ⟨e, rfl, rfl, .inr (ready_error hready)⟩
    · refine .inr ⟨c, rfl, ?_⟩
      obtain ⟨rfl, hshort⟩ | ⟨rfl, hlong⟩ := command_of_ready hready
      · exact .inl ⟨rfl, hshort⟩
      · exact .inr ⟨rfl, hlong, utf8ByteSize_line_lt s job⟩
  · have hrefused : link s runner arch job w = (.error (.wrongArchitecture s.arch arch), w) := by
      rw [link, Session.checkArchitecture, if_neg (by simpa using harch)]
    exact .inl ⟨_, by rw [hrefused], by rw [hrefused], .inl harch⟩

end Clinker.Link

import Clinker.Link
import Clinker.Proofs.CommandLine.Length
import Clinker.Proofs.CommandLine.RoundTrip
import Clinker.Proofs.FileSystem.Writing

/-!
# Response files hand over the same arguments

A command whose line is too long is run with its arguments in a response file. Linking makes one
call (`link_of_prepare`), and whichever way the arguments take, the tool receives those of
`Link.commandFor`: on the command line they stand as they are, and the response file is cut into
them (`split_responseText`) when it holds what was written to it.
-/

namespace Clinker.Link

variable {σ : Type}

/-! ## The command that is run -/

theorem prepare_of_le {c : Command} (h : c.line.utf8ByteSize ≤ maxLineBytes) (target : Path)
    (files : FileSystem) (limits : Limits) : prepare c target files limits = (.ok c, files) :=
  if_pos h

theorem prepare_of_lt {c : Command} (h : maxLineBytes < c.line.utf8ByteSize) {target : Path}
    {files written : FileSystem} {limits : Limits}
    (hwrite : files.writeText (responseFile target) (responseText c) limits = .ok written) :
    prepare c target files limits = (.ok (viaResponseFile c target), written) := by
  rw [prepare, if_neg (Nat.not_le.2 h), hwrite]

/-- What is prepared is the command itself or the command with its response file, as the length of
the line says. -/
theorem prepare_eq_ok {c c' : Command} {target : Path} {files found : FileSystem} {limits : Limits}
    (h : prepare c target files limits = (.ok c', found)) :
    c' = c ∧ c.line.utf8ByteSize ≤ maxLineBytes ∨
      c' = viaResponseFile c target ∧ maxLineBytes < c.line.utf8ByteSize := by
  unfold prepare at h
  split_ifs at h with hshort
  · cases h
    exact .inl ⟨rfl, hshort⟩
  · cases hwrite : files.writeText (responseFile target) (responseText c) limits with
    | error refusal =>
      rw [hwrite] at h
      cases h
    | ok written =>
      rw [hwrite] at h
      cases h
      exact .inr ⟨rfl, Nat.lt_of_not_le hshort⟩

/-- Only the response file can be in the way. -/
theorem prepare_eq_error {c : Command} {target : Path} {files left : FileSystem} {limits : Limits}
    {e : BuildError} (h : prepare c target files limits = (.error e, left)) :
    ∃ cause, e = .fileAccess (responseFile target) cause := by
  unfold prepare at h
  split_ifs at h
  · cases h
  · cases hwrite : files.writeText (responseFile target) (responseText c) limits with
    | error refusal =>
      rw [hwrite] at h
      cases h
      exact ⟨refusal.cause, rfl⟩
    | ok written =>
      rw [hwrite] at h
      cases h

@[simp] theorem snd_runTool (runner : ToolRunner σ) (job : LinkJob) (c : Command)
    (w : Workshop σ) : (runTool runner job c w).2 = (w.call runner c).2 := rfl

/-- Linking for the session's own architecture runs the command that was prepared, and nothing
else. -/
theorem link_of_prepare {s : Session} {job : LinkJob} {w : Workshop σ} {files found : FileSystem}
    {c : Command} (runner : ToolRunner σ)
    (hparent : w.files.createParent job.target w.limits = (.ok (), files))
    (hprepare : prepare (commandFor s job) job.target files w.limits = (.ok c, found)) :
    link s runner s.arch job w = runTool runner job c (w.withFiles found) := by
  have harch : s.checkArchitecture s.arch = .ok () := by simp [Session.checkArchitecture]
  simp only [link, harch, hparent, hprepare]

/-! ## What the response file says -/

/-- **The response file is cut into the arguments it was made of.** The line end after them
separates, and nothing follows it. -/
theorem split_responseText {c : Command} (h : ∀ arg ∈ c.args, CommandLine.Survives arg) :
    CommandLine.split (responseText c) = c.args := by
  have htext : (responseText c).toList =
      CommandLine.joinChars (c.args.map String.toList) ++ '\r' :: ['\n'] := by
    simp [responseText]
  have hend : CommandLine.splitChars ['\n'] = [] := rfl
  calc CommandLine.split (responseText c)
      = CommandLine.split (CommandLine.join c.args) := by
        rw [CommandLine.split, htext, CommandLine.splitChars_joinChars_append rfl, hend,
          List.append_nil, ← CommandLine.toList_join, CommandLine.split]
    _ = c.args := CommandLine.split_join_of_survives h

/-! ## The one call -/

/-- **Both ways hand the tool the same arguments.** If the arguments survive and files can be
written, linking makes one call, and makes it with the files `found`. Either the line is short
enough; then the command is run as it is, and the directory of the target is all that was made.
Or the command is given the response file, which is cut into its arguments at that moment. -/
theorem link_delivers_args (s : Session) (runner : ToolRunner σ) (job : LinkJob) (w : Workshop σ)
    (files : FileSystem) (hsurvive : ∀ arg ∈ (commandFor s job).args, CommandLine.Survives arg)
    (hparent : w.files.createParent job.target w.limits = (.ok (), files))
    (hwrite : maxLineBytes < (commandFor s job).line.utf8ByteSize → ∃ written,
      files.writeText (responseFile job.target) (responseText (commandFor s job)) w.limits =
        .ok written) :
    ∃ c found, (link s runner s.arch job w).2 = ((w.withFiles found).call runner c).2 ∧
      (link s runner s.arch job w).2.calls = w.calls ++ [c] ∧
      c.program = (commandFor s job).program ∧ c.env = (commandFor s job).env ∧
      c.stdout = (commandFor s job).stdout ∧ c.stderr = (commandFor s job).stderr ∧
      ((commandFor s job).line.utf8ByteSize ≤ maxLineBytes ∧ c.args = (commandFor s job).args ∧
          found = files ∨
        maxLineBytes < (commandFor s job).line.utf8ByteSize ∧
          c.args = ["@" ++ (job.target.text ++ ".rsp")] ∧
          ∃ text, found.readText (responseFile job.target) = .ok text ∧
            CommandLine.split text = (commandFor s job).args) := by
  rcases Nat.lt_or_ge maxLineBytes (commandFor s job).line.utf8ByteSize with hlong | hshort
  · obtain ⟨written, hwritten⟩ := hwrite hlong
    have hlink := link_of_prepare runner hparent (prepare_of_lt hlong hwritten)
    refine ⟨viaResponseFile (commandFor s job) job.target, written, by rw [hlink, snd_runTool],
      by rw [hlink]; rfl, rfl, rfl, rfl, rfl, .inr ⟨hlong, rfl, ?_⟩⟩
    exact ⟨_, FileSystem.readText_of_writeText hwritten, split_responseText hsurvive⟩
  · have hlink := link_of_prepare runner hparent (prepare_of_le hshort job.target files w.limits)
    exact ⟨commandFor s job, files, by rw [hlink, snd_runTool], by rw [hlink]; rfl, rfl, rfl, rfl,
      rfl, .inl ⟨hshort, rfl, rfl⟩⟩

/-! ## An archive of an object with a long name -/

/-- A name of `n` letters. -/
def longName (n : Nat) : String := String.ofList (List.replicate n 'o')

theorem eq_of_mem_longName {n : Nat} {c : Char} (h : c ∈ (longName n).toList) : c = 'o' := by
  rw [longName, String.toList_ofList] at h
  exact List.eq_of_mem_replicate h

theorem survives_longName (n : Nat) : CommandLine.Survives (longName n) := by
  rintro ⟨c, hc, hcontrol⟩
  rw [eq_of_mem_longName hc] at hcontrol
  exact absurd hcontrol (by decide)

theorem utf8ByteSize_longName (n : Nat) : (longName n).utf8ByteSize = n := by
  induction n with
  | zero => rfl
  | succ n ih =>
    rw [longName] at ih ⊢
    rw [List.replicate_succ', String.ofList_append, String.utf8ByteSize_append, ih]
    rfl

theorem quote_longName {n : Nat} (h : n ≠ 0) : CommandLine.quote (longName n) = longName n := by
  apply String.toList_injective
  rw [CommandLine.toList_quote, CommandLine.quoteChars_of_isPlain]
  refine CommandLine.isPlain_iff.2 ⟨?_, fun h => ?_, fun h => ?_⟩
  · rw [longName, String.toList_ofList]
    exact fun hnil => h ((List.replicate_eq_nil_iff _).1 hnil)
  · exact absurd (eq_of_mem_longName h) (by decide)
  · exact absurd (eq_of_mem_longName h) (by decide)

def sampleSession : Session where
  arch := .x64
  variant := .debug
  tools := ⟨⟨"cl.exe"⟩, ⟨"link.exe"⟩, ⟨"lib.exe"⟩, ⟨"rc.exe"⟩, ⟨"midl.exe"⟩⟩
  env := ⟨[("PATH", "C:\\vc\\bin")]⟩
  roots := ⟨⟨"C:\\vc"⟩, ⟨"C:\\kits"⟩, none, ⟨"C:\\vc\\include"⟩, []⟩

/-- A library of two objects, one with a name that needs quotes and one with a long name. -/
def longArchive (n : Nat) : LinkJob where
  target := ⟨"big.lib"⟩
  objects := [⟨"my obj\t\\"⟩, ⟨longName n⟩]
  libDirs := []
  libs := []
  frameworks := []
  frameworkPaths := []
  extraArgs := []
  options := ⟨.staticLibrary, .console, [], none⟩

theorem args_longArchive (n : Nat) : (commandFor sampleSession (longArchive n)).args =
    ["/nologo", "/MACHINE:X64", "/OUT:big.lib", "my obj\t\\", longName n] := by
  simp [commandFor, archiveCommand, longArchive, sampleSession, Session.command, Command.plain,
    Variant.archiverFlags, Architecture.machine]

theorem survives_args_longArchive (n : Nat) :
    ∀ arg ∈ (commandFor sampleSession (longArchive n)).args, CommandLine.Survives arg := by
  have hshort : ∀ arg ∈ ["/nologo", "/MACHINE:X64", "/OUT:big.lib", "my obj\t\\"],
      CommandLine.Survives arg := by decide
  rw [args_longArchive]
  simpa [survives_longName] using hshort

theorem le_line_longArchive {n : Nat} (h : n ≠ 0) :
    n ≤ (commandFor sampleSession (longArchive n)).line.utf8ByteSize := by
  have hmem : longName n ∈ (commandFor sampleSession (longArchive n)).program.text ::
      (commandFor sampleSession (longArchive n)).args := by
    rw [args_longArchive]
    simp
  have hle := CommandLine.utf8ByteSize_quote_le_join hmem
  rwa [quote_longName h, utf8ByteSize_longName] at hle

theorem exists_writeText_empty (text : String) : ∃ written : FileSystem,
    FileSystem.writeText ⟨[], []⟩ (responseFile ⟨"big.lib"⟩) text {} = .ok written :=
  ⟨_, rfl⟩

/-- A runner that succeeds and counts its calls. -/
def countingRunner : ToolRunner Nat where
  run _ count files := (.ok ⟨some 0, "", ""⟩, count + 1, files)

/-- The archiver gets two objects, one of them with a long name, through `big.lib.rsp`. -/
theorem longArchive_delivers_args : ∃ (c : Command) (found : FileSystem) (text : String),
    (link sampleSession countingRunner sampleSession.arch (longArchive 8001)
        (.start ⟨[], []⟩ 0 none)).2.calls = [c] ∧
      c.args = ["@big.lib.rsp"] ∧ found.readText ⟨"big.lib.rsp"⟩ = .ok text ∧
      CommandLine.split text =
        ["/nologo", "/MACHINE:X64", "/OUT:big.lib", "my obj\t\\", longName 8001] := by
  obtain ⟨c, found, -, hcalls, -, -, -, -, h⟩ := link_delivers_args sampleSession countingRunner
    (longArchive 8001) (.start ⟨[], []⟩ 0 none) ⟨[], []⟩ (survives_args_longArchive 8001) rfl
    fun _ => exists_writeText_empty _
  rcases h with ⟨hle, -⟩ | ⟨-, hargs, text, hread, hsplit⟩
  · have hlong := le_line_longArchive (n := 8001) (by decide)
    exact absurd (Nat.le_trans hlong hle) (by decide)
  · exact ⟨c, found, text, hcalls.trans (List.nil_append [c]), hargs, hread,
      hsplit.trans (args_longArchive 8001)⟩

end Clinker.Link

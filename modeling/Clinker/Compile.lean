import Clinker.Dependency.Notes
import Clinker.Dependency.Record
import Clinker.Job
import Clinker.Session
import Clinker.Workshop

/-!
# Compiling one source

The compiler reports the headers of an ordinary source itself. Resource scripts and interface
definitions have compilers that cannot, so the C++ compiler preprocesses them first and its
include notes take the place of the report.

A compile is a sequence of steps on the shared workshop, and `Progress` says which step comes
next. Each step reads and writes only what belongs to its job, apart from the record it leaves in
the compilation database, so compiles may take turns in any order.
-/

namespace Clinker.Compile

open Dependency (Record)

variable {σ : Type}

/-! ## Commands -/

/-- Options of every ordinary compile. -/
def fixedFlags : List String :=
  ["/nologo", "/c", "/utf-8", "/std:c++17", "/EHsc", "/we4834"]

/-- Options that make the compiler list includes and do nothing else. -/
def preprocessFlags : List String := ["/nologo", "/EP", "/showIncludes", "/TC"]

/-- Each macro or directory as an argument with an option in front. -/
def attached (option : String) (values : List String) : List String := values.map (option ++ ·)

/-- Each macro or directory as an argument after an option of its own. -/
def separate (option : String) (values : List String) : List String :=
  values.flatMap fun v => [option, v]

/-- The macros of a job. -/
def macrosOf (s : Session) (job : CompileJob) : List String := s.variant.macros job.macros

/-- The include directories of a job. -/
def includesOf (job : CompileJob) : List String := job.includeDirs.map (·.text)

/-- The compiler's command for an ordinary source. -/
def sourceCommand (s : Session) (job : CompileJob) : Command :=
  s.command .compiler <|
    fixedFlags ++ s.variant.compilerFlags ++ attached "/D" (macrosOf s job) ++
      attached "/I" (includesOf job) ++
      [job.runtime.flag s.variant, "/sourceDependencies", job.report.text,
       "/Fo" ++ job.object.text, job.source.text]

/-- The compiler's command that lists the includes of a source for another tool. `marker` is the
macro that tool defines, and the language of the notes is fixed to English. -/
def preprocessCommand (s : Session) (job : CompileJob) (marker : String) : Command :=
  let c := s.command .compiler <|
    preprocessFlags ++ ["/D" ++ marker] ++ attached "/D" (macrosOf s job) ++
      attached "/I" (includesOf job) ++ [job.source.text]
  { c with env := c.env ++ [("VSLANG", "1033")], stderr := .utf8 }

/-- The resource compiler's command. -/
def resourceCommand (s : Session) (job : CompileJob) : Command :=
  s.command .resourceCompiler <|
    ["/nologo"] ++ separate "/d" (macrosOf s job) ++ separate "/i" (includesOf job) ++
      ["/fo", job.object.text, job.source.text]

/-- The interface compiler's command. The header it also makes goes next to the type library. -/
def interfaceCommand (s : Session) (job : CompileJob) : Command :=
  let outDir := (job.object.writtenParent?.getD ⟨"."⟩).text
  let header := job.source.stem?.getD "" ++ ".h"
  s.command .interfaceCompiler <|
    ["/nologo"] ++ s.interfaceIncludeArgs ++ separate "/I" (includesOf job) ++
      separate "/D" (macrosOf s job) ++
      ["/env", s.arch.interfaceTarget, "/out", outDir, "/h", header, "/tlb", job.object.text,
       job.source.text]

/-! ## Steps -/

/-- What has been done for a job. -/
inductive Progress
  /-- Nothing. -/
  | start
  /-- The directories for the outputs exist. -/
  | placesReady
  /-- No report of an earlier compile is left. -/
  | reportCleared
  /-- The compiler has made the object of an ordinary source. -/
  | objectMade
  /-- The compile is in the compilation database. -/
  | entryRecorded
  /-- The headers of a source for another tool are known. -/
  | preprocessed (record : Record)
  /-- The object is made and its headers are known. -/
  | headersKnown (record : Record)
  /-- The compile is over. -/
  | finished (result : Except BuildError Record)

/-- How many steps may still follow. -/
def Progress.remaining : Progress → Nat
  | start => 6
  | placesReady => 5
  | reportCleared => 4
  | objectMade => 3
  | entryRecorded => 2
  | preprocessed _ => 2
  | headersKnown _ => 1
  | finished _ => 0

/-- How a compile that is over has ended. -/
def Progress.result? : Progress → Option (Except BuildError Record)
  | finished result => some result
  | _ => none

theorem remaining_pos_of_result? {p : Progress} (h : p.result? = none) : 0 < p.remaining := by
  cases p <;> simp_all [Progress.remaining, Progress.result?]

/-- Create the directories that some paths lie in; the error names the path. -/
def createPlaces (limits : Limits) :
    List Path → FileSystem → Except BuildError Unit × FileSystem
  | [], fs => (.ok (), fs)
  | p :: ps, fs =>
    match fs.createParent p limits with
    | (.error e, fs') => (.error (.fileAccess p e), fs')
    | (.ok (), fs') => createPlaces limits ps fs'

/-- Run a command of a job; an exit code other than zero is an error of the compile. -/
def runTool (runner : ToolRunner σ) (job : CompileJob) (c : Command) (w : Workshop σ) :
    Except BuildError ToolOutput × Workshop σ :=
  let (answer, w) := w.call runner c
  let checked := answer.bind fun output =>
    if output.succeeded then .ok output
    else .error (.compileFailed job.source output.code output.combined)
  (checked, w)

/-- The record of a job whose compiler named some headers. -/
def recordOf (s : Session) (job : CompileJob) (headers : List String) : Record :=
  Dependency.record s.exclusions job.object job.source headers

/-- The macro and the command of the tool that compiles a preprocessed source. -/
def ownTool? (s : Session) (job : CompileJob) : Option (String × Command) :=
  match job.kind with
  | .resourceScript => some ("RC_INVOKED", resourceCommand s job)
  | .interfaceDefinition => some ("__midl", interfaceCommand s job)
  | .ordinary => none

/-- Create the directories for the outputs. -/
def makePlaces (job : CompileJob) (w : Workshop σ) : Progress × Workshop σ :=
  match createPlaces w.limits [job.object, job.depFile] w.files with
  | (.error e, files) => (.finished (.error e), w.withFiles files)
  | (.ok (), files) => (.placesReady, w.withFiles files)

/-- Remove the report of an earlier compile. -/
def clearReport (job : CompileJob) (w : Workshop σ) : Progress × Workshop σ :=
  match w.files.removeFileIfExists job.report w.limits with
  | .error e => (.finished (.error (.fileAccess job.report e)), w)
  | .ok files => (.reportCleared, w.withFiles files)

/-- Run a command of a job; what follows depends on its output. -/
def runThen (runner : ToolRunner σ) (job : CompileJob) (c : Command)
    (next : ToolOutput → Progress) (w : Workshop σ) : Progress × Workshop σ :=
  match runTool runner job c w with
  | (.error e, w) => (.finished (.error e), w)
  | (.ok output, w) => (next output, w)

/-- Record the compile of an ordinary source in the compilation database. -/
def recordCompile (s : Session) (job : CompileJob) (w : Workshop σ) : Progress × Workshop σ :=
  let entry := DatabaseEntry.ofCommand w.files.currentPath job.source job.object
    (sourceCommand s job)
  (.entryRecorded, w.recordEntry entry)

/-- Read the report of an ordinary source. -/
def readReport (s : Session) (job : CompileJob) (w : Workshop σ) : Progress × Workshop σ :=
  match Dependency.Report.load w.files job.report job.source with
  | .error e => (.finished (.error e), w)
  | .ok report => (.headersKnown (recordOf s job report.headers), w)

/-- Write the dependency file. -/
def saveRecord (job : CompileJob) (record : Record) (w : Workshop σ) : Progress × Workshop σ :=
  match record.save w.files job.depFile w.limits with
  | (.error e, files) => (.finished (.error e), w.withFiles files)
  | (.ok (), files) => (.finished (.ok record), w.withFiles files)

/-- Take the next step of a job. -/
def step (s : Session) (runner : ToolRunner σ) (job : CompileJob) (p : Progress)
    (w : Workshop σ) : Progress × Workshop σ :=
  match p, ownTool? s job with
  | .start, _ => makePlaces job w
  | .placesReady, none => clearReport job w
  | .placesReady, some (marker, _) =>
    runThen runner job (preprocessCommand s job marker)
      (fun output => .preprocessed (recordOf s job (Dependency.notedHeaders output.stderr))) w
  | .reportCleared, _ => runThen runner job (sourceCommand s job) (fun _ => .objectMade) w
  | .objectMade, _ => recordCompile s job w
  | .entryRecorded, _ => readReport s job w
  | .preprocessed record, none => (.headersKnown record, w)
  | .preprocessed record, some (_, command) =>
    runThen runner job command (fun _ => .headersKnown record) w
  | .headersKnown record, _ => saveRecord job record w
  | .finished result, _ => (.finished result, w)

@[simp] theorem step_finished (s : Session) (runner : ToolRunner σ) (job : CompileJob)
    (result : Except BuildError Record) (w : Workshop σ) :
    step s runner job (.finished result) w = (.finished result, w) := rfl

/-- A command that is run leaves what follows it, or the end. -/
theorem remaining_runThen_le (runner : ToolRunner σ) (job : CompileJob) (c : Command)
    (next : ToolOutput → Progress) (w : Workshop σ) {n : Nat} (h : ∀ o, (next o).remaining ≤ n) :
    (runThen runner job c next w).1.remaining ≤ n := by
  unfold runThen
  split
  · exact Nat.zero_le n
  · exact h _

/-- Every step brings the end nearer. -/
theorem remaining_step_lt (s : Session) (runner : ToolRunner σ) (job : CompileJob) (p : Progress)
    (w : Workshop σ) (h : 0 < p.remaining) :
    (step s runner job p w).1.remaining < p.remaining := by
  cases p with
  | start =>
    show (makePlaces job w).1.remaining < 6
    unfold makePlaces
    split <;> simp [Progress.remaining]
  | placesReady =>
    unfold step
    cases ownTool? s job with
    | none =>
      show (clearReport job w).1.remaining < 5
      unfold clearReport
      split <;> simp [Progress.remaining]
    | some tool => exact Nat.lt_succ_of_le <|
        Nat.le_trans (remaining_runThen_le _ _ _ _ _ fun _ => Nat.le_refl 2) (by decide)
  | reportCleared =>
    exact Nat.lt_succ_of_le (remaining_runThen_le _ _ _ _ _ fun _ => Nat.le_refl 3)
  | objectMade => exact Nat.lt_succ_self 2
  | entryRecorded =>
    show (readReport s job w).1.remaining < 2
    unfold readReport
    split <;> simp [Progress.remaining]
  | preprocessed record =>
    unfold step
    cases ownTool? s job with
    | none => exact Nat.lt_succ_self 1
    | some tool =>
      exact Nat.lt_succ_of_le (remaining_runThen_le _ _ _ _ _ fun _ => Nat.le_refl 1)
  | headersKnown record =>
    show (saveRecord job record w).1.remaining < 1
    unfold saveRecord
    split <;> simp [Progress.remaining]
  | finished result => exact absurd h (Nat.lt_irrefl 0)

/-- Take steps until the compile is over. -/
def finish (s : Session) (runner : ToolRunner σ) (job : CompileJob) (p : Progress)
    (w : Workshop σ) : Except BuildError Record × Workshop σ :=
  match _over : p.result? with
  | some result => (result, w)
  | none =>
    let next := step s runner job p w
    finish s runner job next.1 next.2
termination_by p.remaining
decreasing_by exact remaining_step_lt s runner job p w (remaining_pos_of_result? _over)

/-- Compile one source for an architecture, leaving its object and its dependency file. -/
def compile (s : Session) (runner : ToolRunner σ) (arch : Architecture) (job : CompileJob)
    (w : Workshop σ) : Except BuildError Record × Workshop σ :=
  match s.checkArchitecture arch with
  | .error e => (.error e, w)
  | .ok () => finish s runner job .start w

end Clinker.Compile

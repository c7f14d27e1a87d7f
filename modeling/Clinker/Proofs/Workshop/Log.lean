import Clinker.Workshop

/-!
# A log of what tools answered

A workshop lists the commands that were given to the runner, but not what came back. `logged` is
the same runner with a log: it answers as the runner does, and also remembers each command with
its answer and the files it left. What is done with a logged runner is what is done with the
runner itself, so the log says what happened there (`call_withLog`).
-/

namespace Clinker

variable {σ : Type}

/-- One call of a runner: the command, the answer, and the files as they were after it. -/
structure LogEntry where
  command : Command
  answer : Except BuildError ToolOutput
  files : FileSystem

/-- Whether a tool ran and exited with code 0. -/
def LogEntry.Succeeded (entry : LogEntry) : Prop :=
  ∃ output, entry.answer = .ok output ∧ output.code = some 0

theorem ToolOutput.succeeded_iff {output : ToolOutput} :
    output.succeeded = true ↔ output.code = some 0 := by
  rw [ToolOutput.succeeded, beq_iff_eq]

namespace LogEntry

/-- **A call has one of three outcomes**: the runner refuses it, the tool exits with another code
than 0, or it succeeds. -/
theorem answer_cases (entry : LogEntry) :
    (∃ e, entry.answer = .error e) ∨
    (∃ output, entry.answer = .ok output ∧ output.code ≠ some 0 ∧ output.succeeded = false) ∨
    ∃ output, entry.answer = .ok output ∧ output.code = some 0 ∧ output.succeeded = true := by
  cases entry.answer with
  | error e => exact .inl ⟨e, rfl⟩
  | ok output =>
    by_cases hcode : output.code = some 0
    · exact .inr (.inr ⟨output, rfl, hcode, ToolOutput.succeeded_iff.2 hcode⟩)
    · refine .inr (.inl ⟨output, rfl, hcode, ?_⟩)
      rw [Bool.eq_false_iff]
      exact fun hok => hcode (ToolOutput.succeeded_iff.1 hok)

theorem not_succeeded_of_error {entry : LogEntry} {e : BuildError} (h : entry.answer = .error e) :
    ¬ entry.Succeeded := by
  rintro ⟨output, hok, -⟩
  rw [h] at hok
  cases hok

theorem not_succeeded_of_code {entry : LogEntry} {output : ToolOutput}
    (h : entry.answer = .ok output) (hcode : output.code ≠ some 0) : ¬ entry.Succeeded := by
  rintro ⟨output', hok, hzero⟩
  rw [h, Except.ok.injEq] at hok
  exact hcode (hok ▸ hzero)

end LogEntry

/-- The commands of a log. -/
def commandsOf (log : List LogEntry) : List Command := log.map (·.command)

@[simp] theorem commandsOf_nil : commandsOf [] = [] := rfl

@[simp] theorem commandsOf_append (log log' : List LogEntry) :
    commandsOf (log ++ log') = commandsOf log ++ commandsOf log' := List.map_append

@[simp] theorem commandsOf_singleton (entry : LogEntry) :
    commandsOf [entry] = [entry.command] := rfl

/-- The runner with a log of its calls. -/
def ToolRunner.logged (runner : ToolRunner σ) : ToolRunner (σ × List LogEntry) where
  run c memory files :=
    let (answer, inner, left) := runner.run c memory.1 files
    (answer, (inner, memory.2 ++ [⟨c, answer, left⟩]), left)

namespace Workshop

/-- The workshop of a runner that has kept a log. -/
def withLog (w : Workshop σ) (log : List LogEntry) : Workshop (σ × List LogEntry) :=
  ⟨w.files, (w.memory, log), w.calls, w.database, w.limits⟩

@[simp] theorem files_withLog (w : Workshop σ) (log : List LogEntry) :
    (w.withLog log).files = w.files := rfl

@[simp] theorem limits_withLog (w : Workshop σ) (log : List LogEntry) :
    (w.withLog log).limits = w.limits := rfl

/-- What is added to the log when a command is given to the runner. -/
def entryOf (runner : ToolRunner σ) (c : Command) (w : Workshop σ) : LogEntry :=
  ⟨c, (w.call runner c).1, (w.call runner c).2.files⟩

@[simp] theorem command_entryOf (runner : ToolRunner σ) (c : Command) (w : Workshop σ) :
    (w.entryOf runner c).command = c := rfl

/-- **A logged call is a call.** -/
theorem call_withLog (runner : ToolRunner σ) (c : Command) (w : Workshop σ)
    (log : List LogEntry) :
    (w.withLog log).call runner.logged c =
      ((w.call runner c).1, (w.call runner c).2.withLog (log ++ [w.entryOf runner c])) := rfl

end Workshop

end Clinker

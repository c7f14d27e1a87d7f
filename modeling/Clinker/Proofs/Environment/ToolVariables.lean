import Clinker.Proofs.Compile.Calls
import Clinker.Proofs.Environment.Listing
import Clinker.Proofs.Link.Calls
import Clinker.Proofs.Text.UpperCase

/-!
# The variables that tools are started with

**Theorem (`tools_runIn_captured`).** In a session with a captured environment every tool is
started with exactly the captured variables, and the compiler that lists includes with the same
ones but for the language of its messages, which is English whatever was captured.

Names are captured in upper case, and upper case is final. So two captured names that agree up to
their case are the same name, and each name occurs once (`namedOnce_of_sorted`). That is why nothing
is lost when the variables are set one after the other, and why one more setting of `VSLANG`
replaces every captured one, in whatever case it was spelled.
-/

namespace Clinker

open Text (upper upper_upper)

variable {σ : Type}

/-! ## Captured environments -/

/-- Each name occurs once, whatever its case. -/
def NamedOnce (vars : List (String × String)) : Prop := (vars.map fun x => upper x.1).Nodup

/-- Names in upper case that agree up to their case are the same. -/
theorem namedOnce_of_sorted {vars : List (String × String)} (hsorted : Variables.Sorted vars)
    (hupper : ∀ x ∈ vars, upper x.1 = x.1) : NamedOnce vars := by
  rw [NamedOnce, List.map_congr_left hupper]
  exact hsorted.nodup_names

namespace Environment

/-- An environment that was read from a listing, or made of settings given as texts or as bytes. -/
inductive Captured : Environment → Prop
  | ofListing (listing : String) : Captured (.ofListing listing)
  | ofPairs (settings : List (String × String)) : Captured (.ofPairs settings)
  | ofBytes (settings : List (ByteArray × ByteArray)) : Captured (.ofBytes settings)

theorem upper_of_readLine? {line : List Char} {x : String × String} (h : readLine? line = some x) :
    upper x.1 = x.1 := by
  unfold readLine? at h
  split at h
  · cases h
  · split at h
    · cases h
    · split at h
      · cases h
      · rw [← Option.some.inj h]
        dsimp only
        rw [upper_upper]

namespace Captured

variable {env : Environment}

/-- A captured environment is what settings with names in upper case leave. -/
theorem exists_settings (h : Captured env) : ∃ settings : List (String × String),
    (∀ x ∈ settings, upper x.1 = x.1) ∧ env.vars = Variables.ofSettings settings := by
  have hpairs : ∀ settings : List (String × String),
      ∀ x ∈ settings.map fun setting => (upper setting.1, setting.2), upper x.1 = x.1 := by
    intro settings x hx
    obtain ⟨setting, -, rfl⟩ := List.mem_map.1 hx
    dsimp only
    rw [upper_upper]
  cases h with
  | ofListing listing =>
    refine ⟨_, fun x hx => ?_, rfl⟩
    obtain ⟨line, -, hline⟩ := List.mem_filterMap.1 hx
    exact upper_of_readLine? hline
  | ofPairs settings => exact ⟨_, hpairs settings, rfl⟩
  | ofBytes settings => exact ⟨_, hpairs _, rfl⟩

theorem sorted (h : Captured env) : Variables.Sorted env.vars := by
  obtain ⟨settings, -, hvars⟩ := h.exists_settings
  rw [hvars]
  exact Variables.sorted_ofSettings settings

theorem upper_eq (h : Captured env) : ∀ x ∈ env.vars, upper x.1 = x.1 := by
  obtain ⟨settings, hupper, hvars⟩ := h.exists_settings
  intro x hx
  rw [hvars, Variables.mem_ofSettings] at hx
  exact hupper x hx.mem

end Captured

end Environment

/-! ## Commands -/

namespace Command

/-- The program is started with the variables of an environment, each once. -/
structure RunsIn (c : Command) (env : Environment) : Prop where
  captured : c.childVariables = env.vars
  once : NamedOnce c.childVariables

/-- The program is started with the variables of an environment, each once, except that its
messages are in English. -/
structure RunsInEnglish (c : Command) (env : Environment) : Prop where
  language : ∀ name value, upper name = "VSLANG" →
    ((name, value) ∈ c.childVariables ↔ name = "VSLANG" ∧ value = "1033")
  others : ∀ name value, upper name ≠ "VSLANG" →
    ((name, value) ∈ c.childVariables ↔ (name, value) ∈ env.vars)
  once : NamedOnce c.childVariables

theorem upper_language : upper "VSLANG" = "VSLANG" := by
  decide +kernel

variable {c : Command} {env : Environment}

theorem runsIn_of_env (h : env.Captured) (hc : c.env = env.vars) : c.RunsIn env := by
  have hvars : c.childVariables = env.vars := by
    rw [childVariables, hc, Variables.ofSettings_of_sorted h.sorted]
  exact ⟨hvars, hvars ▸ namedOnce_of_sorted h.sorted h.upper_eq⟩

theorem runsInEnglish_of_env (h : env.Captured) (hc : c.env = env.vars ++ [("VSLANG", "1033")]) :
    c.RunsInEnglish env := by
  have hmem : ∀ {x}, x ∈ c.childVariables ↔
      x = ("VSLANG", "1033") ∨ x ∈ env.vars ∧ x.1 ≠ "VSLANG" := by
    intro x
    rw [childVariables, hc, Variables.ofSettings_concat, Variables.ofSettings_of_sorted h.sorted,
      Variables.mem_set h.sorted]
  have hupper : ∀ x ∈ c.childVariables, upper x.1 = x.1 := by
    intro x hx
    obtain rfl | ⟨hx, -⟩ := hmem.1 hx
    · exact upper_language
    · exact h.upper_eq x hx
  refine ⟨fun name value hname => ?_, fun name value hname => ?_, ?_⟩
  · rw [hmem, Prod.mk.injEq]
    refine or_iff_left fun hother => ?_
    exact hother.2 ((h.upper_eq _ hother.1).symm.trans hname)
  · have hne : name ≠ "VSLANG" := by
      intro heq
      rw [heq, upper_language] at hname
      exact hname rfl
    rw [hmem]
    simp [hne]
  · exact namedOnce_of_sorted (Variables.sorted_ofSettings c.env) hupper

end Command

/-! ## Tools -/

open Compile Link

/-- The tools of a pipeline are started in the environment of the session, a compiler that lists
includes in English. -/
theorem runsIn_of_mem_pipeline {s : Session} (h : s.env.Captured) {job : CompileJob} {c : Command}
    (hc : c ∈ pipeline s job) :
    c.RunsIn s.env ∨ ∃ marker, c = preprocessCommand s job marker ∧ c.RunsInEnglish s.env := by
  unfold pipeline at hc
  split at hc
  · obtain rfl := List.mem_singleton.1 hc
    exact .inl (Command.runsIn_of_env h rfl)
  all_goals
    obtain rfl | hc := List.mem_cons.1 hc
    · exact .inr ⟨_, rfl, Command.runsInEnglish_of_env h rfl⟩
    · obtain rfl := List.mem_singleton.1 hc
      exact .inl (Command.runsIn_of_env h rfl)

theorem env_commandFor (s : Session) (job : LinkJob) : (commandFor s job).env = s.env.vars := by
  unfold commandFor
  split <;> rfl

/-- **Every tool runs in exactly the captured environment.** If the environment of a session was
captured, the programs that compile, make archives and link are started with the captured variables
and no others, each name once whatever its case. So is the compiler when it lists includes, but its
messages are in English whatever the captured variables ask for in whatever spelling. A compile and
a link give the runner only such commands, also where a response file takes the place of the
arguments. -/
theorem tools_runIn_captured {s : Session} (h : s.env.Captured) :
    (∀ job : CompileJob, (sourceCommand s job).RunsIn s.env ∧ (resourceCommand s job).RunsIn s.env ∧
      (interfaceCommand s job).RunsIn s.env ∧
      ∀ marker, (preprocessCommand s job marker).RunsInEnglish s.env) ∧
    (∀ job : LinkJob, (archiveCommand s job).RunsIn s.env ∧ (linkCommand s job).RunsIn s.env) ∧
    ∀ (runner : ToolRunner σ) (arch : Architecture) (w : Workshop σ),
      (∀ job : CompileJob, ∃ commands,
        (compile s runner arch job w).2.calls = w.calls ++ commands ∧ ∀ c ∈ commands,
          c.RunsIn s.env ∨
            ∃ marker, c = preprocessCommand s job marker ∧ c.RunsInEnglish s.env) ∧
      ∀ job : LinkJob, ∃ commands,
        (link s runner arch job w).2.calls = w.calls ++ commands ∧ ∀ c ∈ commands,
          c.RunsIn s.env := by
  have hplain : ∀ {c : Command}, c.env = s.env.vars → c.RunsIn s.env := Command.runsIn_of_env h
  refine ⟨fun job => ⟨hplain rfl, hplain rfl, hplain rfl, fun marker => ?_⟩,
    fun job => ⟨hplain rfl, hplain rfl⟩, fun runner arch w => ⟨fun job => ?_, fun job => ?_⟩⟩
  · exact Command.runsInEnglish_of_env h rfl
  · obtain ⟨commands, hcalls, hcalled⟩ := compile_calls s runner arch job w
    exact ⟨commands, hcalls, fun c hc => runsIn_of_mem_pipeline h (hcalled.subset hc)⟩
  · obtain ⟨commands, hcalls, hcommands⟩ := link_calls_commandFor s runner arch job w
    refine ⟨commands, hcalls, fun c hc => hplain ?_⟩
    obtain rfl | rfl := hcommands c hc
    · exact env_commandFor s job
    · exact env_commandFor s job

/-! A listing that names the language of messages in three spellings, one of them with a long s. -/

def localizedListing : String := "VSLANG=1031\r\nPath=C:\\VS\r\nvslang=2052\r\nv\u017flang=3082\r\n"

def localizedSession : Session := { sampleSession with env := .ofListing localizedListing }

def versionScript : CompileJob where
  source := ⟨"version.rc"⟩
  object := ⟨"version.res"⟩
  depFile := ⟨"version.res.d"⟩
  macros := []
  includeDirs := []
  frameworkPaths := []
  runtime := .dynamic

/-- The last spelling counts for the resource compiler, and none for the compiler that lists
includes. -/
theorem tools_runIn_localized : localizedSession.env.Captured ∧
    (resourceCommand localizedSession versionScript).childVariables =
      [("PATH", "C:\\VS"), ("VSLANG", "3082")] ∧
    (preprocessCommand localizedSession versionScript "RC_INVOKED").RunsInEnglish
      localizedSession.env ∧
    (preprocessCommand localizedSession versionScript "RC_INVOKED").childVariables =
      [("PATH", "C:\\VS"), ("VSLANG", "1033")] := by
  have hcaptured : localizedSession.env.Captured := .ofListing localizedListing
  have hcommands : _ ∧ _ ∧ ∀ _ : ToolRunner Nat, _ := tools_runIn_captured hcaptured
  obtain ⟨-, hresource, -, hpreprocess⟩ := hcommands.1 versionScript
  refine ⟨hcaptured, hresource.captured.trans ?_, hpreprocess "RC_INVOKED", ?_⟩
  · decide +kernel
  · decide +kernel

end Clinker

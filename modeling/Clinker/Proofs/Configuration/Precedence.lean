import Clinker.Configuration.Reader
import Mathlib.Control.Monad.Basic

/-!
# Which file decides a key

The project's file is meant to win key by key: what it sets, else what the user's file sets, else
the default (`Key.promised`). Merging does not see the files any more but only what they leave in
two configurations, where a key that is set to its default looks like one that is not set. So the
promise is kept except for a key that the project sets to its default and the user to something
else (`held_loadBoth`). Only a list or the switch can be set to its default, by an empty list or
by `false`; every other key is free of this (`given?_ne_unset`).

**Reading.** Each key is read alone: what a configuration holds for it is its decoded value if the
document has it, and the default if not (`held_eq_given?`). A section is read field by field, so
this is shown once for each way to read a field and then looked up in each section.
-/

namespace Clinker

namespace Configuration

/-! ## Keys -/

/-- The keys of a configuration, without the list of excluded directories, which adds up. -/
inductive Key
  | arch
  | variant
  | candidates
  | editions
  | useDeveloperPrompt
  | companionRoot
  | versionTag
  | jobs
  | compileCommands
deriving DecidableEq, Repr

namespace Key

/-- The values of a key. -/
abbrev Value : Key → Type
  | arch | variant | versionTag => Option String
  | candidates => List Candidate
  | editions => List String
  | useDeveloperPrompt => Option Bool
  | companionRoot => Option Path
  | jobs => Option Nat
  | compileCommands => Bool

instance : (k : Key) → DecidableEq k.Value
  | arch | variant | versionTag => inferInstanceAs (DecidableEq (Option String))
  | candidates => inferInstanceAs (DecidableEq (List Candidate))
  | editions => inferInstanceAs (DecidableEq (List String))
  | useDeveloperPrompt => inferInstanceAs (DecidableEq (Option Bool))
  | companionRoot => inferInstanceAs (DecidableEq (Option Path))
  | jobs => inferInstanceAs (DecidableEq (Option Nat))
  | compileCommands => inferInstanceAs (DecidableEq Bool)

/-- What a configuration holds for a key. -/
def held : (k : Key) → Configuration → k.Value
  | arch, c => c.toolchain.arch
  | variant, c => c.toolchain.variant
  | candidates, c => c.toolchain.candidates
  | editions, c => c.toolchain.editions
  | useDeveloperPrompt, c => c.toolchain.useDeveloperPrompt
  | companionRoot, c => c.companion.root
  | versionTag, c => c.companion.versionTag
  | jobs, c => c.build.jobs
  | compileCommands, c => c.build.compileCommands

/-- The default of a key. -/
def unset (k : Key) : k.Value := k.held {}

/-- Place and name of the section a key stands in, and its own. -/
def place : Key → (Nat × String) × (Nat × String)
  | arch => ((0, "toolchain"), (0, "arch"))
  | variant => ((0, "toolchain"), (1, "variant"))
  | candidates => ((0, "toolchain"), (2, "candidates"))
  | editions => ((0, "toolchain"), (3, "editions"))
  | useDeveloperPrompt => ((0, "toolchain"), (4, "use_developer_prompt"))
  | companionRoot => ((1, "companion"), (0, "root"))
  | versionTag => ((1, "companion"), (1, "version_tag"))
  | jobs => ((3, "build"), (0, "jobs"))
  | compileCommands => ((3, "build"), (1, "compile_commands"))

/-- What a value in a document sets a key to. -/
def decode : (k : Key) → Toml → Option k.Value
  | arch, v => v.text?.map some
  | variant, v => v.text?.map some
  | candidates, v => Toml.list? Candidate.ofToml? v
  | editions, v => Toml.list? Toml.text? v
  | useDeveloperPrompt, v => v.bool?.map some
  | companionRoot, v => v.path?.map some
  | versionTag, v => v.text?.map some
  | jobs, v => v.nat?.map some
  | compileCommands, v => v.bool?

/-- What a document has for a key. -/
def entry? (k : Key) (document : Toml) : Option Toml :=
  (document.field? k.place.1.1 k.place.1.2).bind fun v => v.field? k.place.2.1 k.place.2.2

/-- What a text sets a key to. -/
def given? (k : Key) (text : String) : Option k.Value :=
  ((Toml.ofText? text).bind k.entry?).bind k.decode

/-- The value a key is meant to have: the project's if it sets the key, else the user's if it does,
else the default. -/
def promised (k : Key) (user project : String) : k.Value :=
  (k.given? project <|> k.given? user).getD k.unset

end Key

/-! ## Reading a field -/

/-- A field holds its decoded value if it is there, and the default if not. -/
def Reads {α : Type} (decode : Toml → Option α) (unset : α) (field : Option Toml) (x : α) : Prop :=
  match field with
  | none => x = unset
  | some v => decode v = some x

theorem reads_of_optional? {α : Type} {decode : Toml → Option α} {field : Option Toml}
    {x : Option α} (h : Toml.optional? decode field = some x) :
    Reads (fun v => (decode v).map some) none field x := by
  cases field with
  | none => exact (Option.some.inj h).symm
  | some v => exact h

theorem reads_of_listField? {α : Type} {decode : Toml → Option α} {field : Option Toml}
    {items : List α} (h : Toml.listField? decode field = some items) :
    Reads (Toml.list? decode) [] field items := by
  obtain ⟨x, hx, rfl⟩ := Option.map_eq_some_iff.1 h
  cases field with
  | none =>
    obtain rfl := Option.some.inj hx
    rfl
  | some v =>
    obtain ⟨items, hitems, rfl⟩ := Option.map_eq_some_iff.1 hx
    exact hitems

theorem reads_of_flag {field : Option Toml} {x : Option Bool}
    (h : Toml.optional? Toml.bool? field = some x) :
    Reads Toml.bool? false field (x.getD false) := by
  cases field with
  | none =>
    obtain rfl := Option.some.inj h
    rfl
  | some v =>
    obtain ⟨b, hb, rfl⟩ := Option.map_eq_some_iff.1 h
    exact hb

/-- A section is there and decoded, or it is not there and all its fields are unset. -/
theorem section?_cases {α : Type} {decode : Toml → Option α} {unset x : α} {field : Option Toml}
    (h : section? decode unset field = some x) :
    field = none ∧ x = unset ∨ ∃ v, field = some v ∧ decode v = some x := by
  cases field with
  | none => exact .inl ⟨rfl, (Option.some.inj h).symm⟩
  | some v =>
    rw [section?] at h
    split at h
    · exact .inr ⟨v, rfl, h⟩
    · cases h

/-- A field that each section of a kind reads is read in a section that may not be there. -/
theorem reads_section {α β : Type} {decodeSection : Toml → Option α} {unset s : α}
    {field : Option Toml} (h : section? decodeSection unset field = some s)
    (entry : Toml → Option Toml) (get : α → β) {decode : Toml → Option β}
    (hdecode : ∀ {v s}, decodeSection v = some s → Reads decode (get unset) (entry v) (get s)) :
    Reads decode (get unset) (field.bind entry) (get s) := by
  obtain ⟨rfl, rfl⟩ | ⟨v, rfl, hv⟩ := section?_cases h
  · rfl
  · exact hdecode hv

/-! ## Reading a document -/

theorem reads_toolchain {v : Toml} {s : ToolchainSection} (h : ToolchainSection.ofToml? v = some s) :
    Toml.optional? Toml.text? (v.field? 0 "arch") = some s.arch ∧
      Toml.optional? Toml.text? (v.field? 1 "variant") = some s.variant ∧
      Toml.listField? Candidate.ofToml? (v.field? 2 "candidates") = some s.candidates ∧
      Toml.listField? Toml.text? (v.field? 3 "editions") = some s.editions ∧
      Toml.optional? Toml.bool? (v.field? 4 "use_developer_prompt") = some s.useDeveloperPrompt := by
  simp only [ToolchainSection.ofToml?, Option.bind_eq_bind, Option.bind_eq_some_iff,
    Option.pure_def, Option.some.injEq] at h
  obtain ⟨_, harch, _, hvariant, _, hcandidates, _, heditions, _, hprompt, rfl⟩ := h
  exact ⟨harch, hvariant, hcandidates, heditions, hprompt⟩

theorem reads_companion {v : Toml} {s : CompanionSection} (h : CompanionSection.ofToml? v = some s) :
    Toml.optional? Toml.path? (v.field? 0 "root") = some s.root ∧
      Toml.optional? Toml.text? (v.field? 1 "version_tag") = some s.versionTag := by
  simp only [CompanionSection.ofToml?, Option.bind_eq_bind, Option.bind_eq_some_iff,
    Option.pure_def, Option.some.injEq] at h
  obtain ⟨_, hroot, _, htag, rfl⟩ := h
  exact ⟨hroot, htag⟩

theorem reads_build {v : Toml} {s : BuildSection} (h : BuildSection.ofToml? v = some s) :
    Toml.optional? Toml.nat? (v.field? 0 "jobs") = some s.jobs ∧
      ∃ x, Toml.optional? Toml.bool? (v.field? 1 "compile_commands") = some x ∧
        s.compileCommands = x.getD false := by
  simp only [BuildSection.ofToml?, Option.bind_eq_bind, Option.bind_eq_some_iff,
    Option.pure_def, Option.some.injEq] at h
  obtain ⟨_, hjobs, x, hrecord, rfl⟩ := h
  exact ⟨hjobs, x, hrecord, rfl⟩

/-- **Each key is read alone.** -/
theorem reads_of_ofToml? {document : Toml} {c : Configuration} (h : ofToml? document = some c)
    (k : Key) : Reads k.decode k.unset (k.entry? document) (k.held c) := by
  simp only [ofToml?, Option.bind_eq_bind, Option.bind_eq_some_iff, Option.pure_def,
    Option.some.injEq] at h
  obtain ⟨t, ht, p, hp, d, -, b, hb, rfl⟩ := h
  cases k with
  | arch =>
    exact reads_section ht (·.field? 0 "arch") (·.arch) fun h =>
      reads_of_optional? (reads_toolchain h).1
  | variant =>
    exact reads_section ht (·.field? 1 "variant") (·.variant) fun h =>
      reads_of_optional? (reads_toolchain h).2.1
  | candidates =>
    exact reads_section ht (·.field? 2 "candidates") (·.candidates) fun h =>
      reads_of_listField? (reads_toolchain h).2.2.1
  | editions =>
    exact reads_section ht (·.field? 3 "editions") (·.editions) fun h =>
      reads_of_listField? (reads_toolchain h).2.2.2.1
  | useDeveloperPrompt =>
    exact reads_section ht (·.field? 4 "use_developer_prompt") (·.useDeveloperPrompt) fun h =>
      reads_of_optional? (reads_toolchain h).2.2.2.2
  | companionRoot =>
    exact reads_section hp (·.field? 0 "root") (·.root) fun h =>
      reads_of_optional? (reads_companion h).1
  | versionTag =>
    exact reads_section hp (·.field? 1 "version_tag") (·.versionTag) fun h =>
      reads_of_optional? (reads_companion h).2
  | jobs =>
    exact reads_section hb (·.field? 0 "jobs") (·.jobs) fun h =>
      reads_of_optional? (reads_build h).1
  | compileCommands =>
    refine reads_section hb (·.field? 1 "compile_commands") (·.compileCommands) fun h => ?_
    obtain ⟨x, hx, hflag⟩ := (reads_build h).2
    rw [hflag]
    exact reads_of_flag hx

section Text

variable {text : String} {c : Configuration}

/-- **What a document has for a key is what the configuration holds for it.** -/
theorem given?_of_entry (h : ofText? text = some c) {k : Key} {v : Toml}
    (hv : (Toml.ofText? text).bind k.entry? = some v) : k.given? text = some (k.held c) := by
  obtain ⟨document, hdocument, hc⟩ := Option.bind_eq_some_iff.1 h
  rw [hdocument, Option.bind_some] at hv
  have hreads := reads_of_ofToml? hc k
  rw [hv] at hreads
  rw [Key.given?, hdocument, Option.bind_some, hv, Option.bind_some]
  exact hreads

theorem held_of_no_entry (h : ofText? text = some c) {k : Key}
    (hv : (Toml.ofText? text).bind k.entry? = none) : k.held c = k.unset := by
  obtain ⟨document, hdocument, hc⟩ := Option.bind_eq_some_iff.1 h
  rw [hdocument, Option.bind_some] at hv
  have hreads := reads_of_ofToml? hc k
  rw [hv] at hreads
  exact hreads

theorem held_eq_given? (h : ofText? text = some c) (k : Key) :
    k.held c = (k.given? text).getD k.unset := by
  cases hv : (Toml.ofText? text).bind k.entry? with
  | none =>
    have hgiven : k.given? text = none := by rw [Key.given?, hv, Option.bind_none]
    rw [held_of_no_entry h hv, hgiven, Option.getD_none]
  | some v => rw [given?_of_entry h hv, Option.getD_some]

end Text

/-! ## Merging -/

/-- **Of two configurations the second one counts unless it holds the default.** -/
theorem held_merge (a b : Configuration) (k : Key) :
    k.held (a.merge b) = if k.held b = k.unset then k.held a else k.held b := by
  have hoption : ∀ {α : Type} [DecidableEq α] (x y : Option α),
      (y <|> x) = if y = none then x else y := by
    intro α _ x y
    cases y <;> simp
  have hlist : ∀ {α : Type} [DecidableEq α] (x y : List α),
      overridden x y = if y = [] then x else y := by
    intro α _ x y
    cases y <;> simp [overridden]
  cases k with
  | arch | variant | useDeveloperPrompt | companionRoot | versionTag | jobs => exact hoption _ _
  | candidates | editions => exact hlist _ _
  | compileCommands =>
    change (a.build.compileCommands || b.build.compileCommands) =
      if b.build.compileCommands = false then a.build.compileCommands else b.build.compileCommands
    cases b.build.compileCommands <;> simp

theorem contributionOf_eq {fs : FileSystem} {p : Path} {text : String} {c : Configuration}
    (htext : fs.readText p = .ok text) (hc : ofText? text = some c) : contributionOf fs p = c := by
  simp [contributionOf, load, htext, hc]

/-- A key other than a list or the switch cannot be set to its default. -/
theorem given?_ne_unset {k : Key} (hcandidates : k ≠ .candidates) (heditions : k ≠ .editions)
    (hswitch : k ≠ .compileCommands) (text : String) : k.given? text ≠ some k.unset := by
  intro h
  obtain ⟨v, -, hv⟩ := Option.bind_eq_some_iff.1 h
  cases k with
  | arch | variant | useDeveloperPrompt | companionRoot | versionTag | jobs =>
    obtain ⟨x, -, hx⟩ := Option.map_eq_some_iff.1 hv
    cases hx
  | candidates => exact hcandidates rfl
  | editions => exact heditions rfl
  | compileCommands => exact hswitch rfl

/-! ## Two files -/

/-- **The project's file decides a key it sets to anything but the default, else the user's file
does.** So a key has the value it is meant to have, except one that the project sets to its default
and the user to something else; only a list or the switch can be set to its default. -/
theorem held_loadBoth {fs : FileSystem} {user project : Path} {userText projectText : String}
    (huser : fs.readText user = .ok userText) (hproject : fs.readText project = .ok projectText)
    (hwell : (ofText? userText).isSome) (hwell' : (ofText? projectText).isSome) (k : Key) :
    k.held (loadBoth fs user project) =
        ((k.given? projectText).filter (· ≠ k.unset) <|> k.given? userText).getD k.unset ∧
      (k.held (loadBoth fs user project) = k.promised userText projectText ↔
        ¬ (k.given? projectText = some k.unset ∧
          ∃ x, k.given? userText = some x ∧ x ≠ k.unset)) ∧
      (k ≠ .candidates → k ≠ .editions → k ≠ .compileCommands →
        k.held (loadBoth fs user project) = k.promised userText projectText) := by
  obtain ⟨c, hc⟩ := Option.isSome_iff_exists.1 hwell
  obtain ⟨c', hc'⟩ := Option.isSome_iff_exists.1 hwell'
  have hheld : k.held (loadBoth fs user project) =
      if (k.given? projectText).getD k.unset = k.unset then (k.given? userText).getD k.unset
      else (k.given? projectText).getD k.unset := by
    rw [loadBoth, contributionOf_eq huser hc, contributionOf_eq hproject hc', held_merge,
      held_eq_given? hc, held_eq_given? hc']
  have hexact : k.held (loadBoth fs user project) = k.promised userText projectText ↔
      ¬ (k.given? projectText = some k.unset ∧ ∃ x, k.given? userText = some x ∧ x ≠ k.unset) := by
    rw [hheld, Key.promised]
    cases k.given? projectText with
    | none => simp
    | some x =>
      by_cases hx : x = k.unset
      · cases k.given? userText <;> simp [hx]
      · simp [hx]
  refine ⟨?_, hexact, fun hcandidates heditions hswitch => hexact.2 ?_⟩
  · rw [hheld]
    cases k.given? projectText with
    | none => simp
    | some x => by_cases hx : x = k.unset <;> simp [Option.filter, hx]
  · intro h
    exact given?_ne_unset hcandidates heditions hswitch projectText h.1

/-! ### Two switches -/

def switchedOn : String :=
  "[toolchain]\nuse_developer_prompt = true\n[build]\ncompile_commands = true\n"

def switchedOff : String :=
  "[toolchain]\nuse_developer_prompt = false\n[build]\ncompile_commands = false\n"

/-- The user's file switches on what the project's file switches off. -/
def twoFiles : FileSystem :=
  ⟨[(["user.toml"], .file switchedOn.toUTF8 false),
    (["project.toml"], .file switchedOff.toUTF8 false)], []⟩

theorem readText_twoFiles :
    twoFiles.readText ⟨"user.toml"⟩ = .ok switchedOn ∧
      twoFiles.readText ⟨"project.toml"⟩ = .ok switchedOff := by
  decide +kernel

theorem isSome_ofText?_switched :
    (ofText? switchedOn).isSome ∧ (ofText? switchedOff).isSome := by
  decide +kernel

/-- The project does without the environment of a prompt. -/
theorem held_loadBoth_switchedOff :
    (twoFiles.readText ⟨"user.toml"⟩ = .ok switchedOn ∧
      twoFiles.readText ⟨"project.toml"⟩ = .ok switchedOff) ∧
    ((ofText? switchedOn).isSome ∧ (ofText? switchedOff).isSome) ∧
    Key.useDeveloperPrompt.held (loadBoth twoFiles ⟨"user.toml"⟩ ⟨"project.toml"⟩) =
      some false := by
  refine ⟨readText_twoFiles, isSome_ofText?_switched, ?_⟩
  have hgiven : Key.useDeveloperPrompt.given? switchedOff = some (some false) := by decide +kernel
  have hheld := held_loadBoth readText_twoFiles.1 readText_twoFiles.2 isSome_ofText?_switched.1
    isSome_ofText?_switched.2 .useDeveloperPrompt
  rw [hheld.2.2 (by decide) (by decide) (by decide), Key.promised, hgiven]
  rfl

/-- **A project cannot switch the compilation database off.** -/
theorem held_loadBoth_ne_promised :
    (twoFiles.readText ⟨"user.toml"⟩ = .ok switchedOn ∧
      twoFiles.readText ⟨"project.toml"⟩ = .ok switchedOff) ∧
    ((ofText? switchedOn).isSome ∧ (ofText? switchedOff).isSome) ∧
    Key.compileCommands.held (loadBoth twoFiles ⟨"user.toml"⟩ ⟨"project.toml"⟩) ≠
      Key.compileCommands.promised switchedOn switchedOff := by
  refine ⟨readText_twoFiles, isSome_ofText?_switched, ?_⟩
  decide +kernel

end Configuration

end Clinker

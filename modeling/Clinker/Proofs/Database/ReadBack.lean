import Clinker.Database
import Clinker.Dependency.Report
import Clinker.Proofs.FileSystem.Writing
import Clinker.Proofs.Json.Writing
import Mathlib.Data.List.Forall2

/-!
# A saved database is read back

The file that is written is the text of one JSON array with an object for each entry, in the order
of the entries (`Lists`). Reading the objects gives every field of every entry back, and an object
has an output exactly if its entry has one (`lists_databaseText`). No other value has this text, so
nothing of this depends on who reads it. A database and a single entry are saved alike
(`lists_saved`).
-/

namespace Clinker

open Dependency (member? membersNamed)

/-! ## Entries in JSON -/

/-- The names of an object's members. -/
def Json.memberNames : Json → List (Option String)
  | .object members => members.map Prod.fst
  | _ => []

namespace DatabaseEntry

/-- The entry an object describes. Its output may be missing, but is a text if it is there. -/
def ofJson? : Json → Option DatabaseEntry
  | .object members => do
    let directory ← (← member? "directory" members).text?
    let file ← (← member? "file" members).text?
    let arguments ← (← member? "arguments" members).texts?
    match membersNamed "output" members with
    | [] => return ⟨directory, file, arguments, none⟩
    | [output] => return ⟨directory, file, arguments, some (← output.text?)⟩
    | _ => none
  | _ => none

@[simp] theorem text?_jsonText (text : String) : (jsonText text).text? = some text := rfl

@[simp] theorem texts?_jsonText (texts : List String) :
    (Json.array (texts.map jsonText)).texts? = some texts := Json.texts?_array_map texts

/-- **An entry is read back from its object.** -/
theorem ofJson?_toJson (e : DatabaseEntry) : ofJson? e.toJson = some e := by
  obtain ⟨directory, file, arguments, output⟩ := e
  cases output <;> simp [ofJson?, toJson, member?, membersNamed]

/-- An object has an output exactly if its entry has one. -/
theorem output_mem_toJson (e : DatabaseEntry) :
    some "output" ∈ e.toJson.memberNames ↔ e.output.isSome := by
  cases h : e.output <;> simp [toJson, Json.memberNames, h]

theorem writable_jsonText (text : String) : (jsonText text).Writable := .string text

theorem writable_toJson (e : DatabaseEntry) : e.toJson.Writable := by
  have harguments : (Json.array (e.arguments.map jsonText)).Writable :=
    .array (List.forall_mem_map.2 fun text _ => writable_jsonText text)
  cases h : e.output <;> simp only [toJson, h] <;>
    exact .object (by simp) (by simp [writable_jsonText, harguments])

end DatabaseEntry

open DatabaseEntry

/-! ## The text of a database -/

/-- A text is that of one JSON array, whose items describe the entries in order, each with an
output exactly if the entry has one. -/
def Lists (text : String) (entries : List DatabaseEntry) : Prop :=
  ∃ items, Json.ofText? text = some (.array items) ∧
    (∀ v, Json.SpelledBy v text ↔ v = .array items) ∧
    items.mapM DatabaseEntry.ofJson? = some entries ∧
    List.Forall₂ (fun item e => some "output" ∈ item.memberNames ↔ e.output.isSome) items entries

/-- **The text of a database lists its entries.** -/
theorem lists_databaseText (entries : List DatabaseEntry) :
    Lists (databaseText entries) entries := by
  have hspelled : Json.SpelledBy (.array (entries.map toJson)) (databaseText entries) :=
    Json.spelledBy_render (.array (List.forall_mem_map.2 fun e _ => writable_toJson e))
  refine ⟨_, Json.ofText?_of_spelledBy hspelled, fun v => ⟨fun h => h.eq hspelled, ?_⟩, ?_, ?_⟩
  · rintro rfl
    exact hspelled
  · rw [List.mapM_map, (funext ofJson?_toJson : ofJson? ∘ toJson = some)]
    simpa using List.mapM_pure (m := Option) (f := id) (l := entries)
  · exact List.forall₂_map_left_iff.2 (List.forall₂_same.2 fun e _ => output_mem_toJson e)

/-! ## Saving -/

/-- **A text that was saved is what the file holds.** -/
theorem FileSystem.readText_of_saveText {fs : FileSystem} {path : Path} {text : String}
    {limits : Limits} (h : (fs.saveText path text limits).1 = .ok ()) :
    (fs.saveText path text limits).2.readText path = .ok text := by
  unfold saveText at h ⊢
  split at h
  · cases h
  · next fs' hparent =>
    split at h
    · cases h
    · next fs'' hwrite =>
      exact readText_of_writeText hwrite

/-- **A saved database lists its entries, and a fragment the one it is made of**, whatever texts
the entries hold. -/
theorem lists_saved (db : Database) (e : DatabaseEntry) (fs : FileSystem) (path : Path)
    (limits : Limits) :
    ((db.save fs path limits).1 = .ok () → ∃ text,
      (db.save fs path limits).2.readText path = .ok text ∧ Lists text db.entries) ∧
    ((e.saveAlone fs path limits).1 = .ok () → ∃ text,
      (e.saveAlone fs path limits).2.readText path = .ok text ∧ Lists text [e]) :=
  ⟨fun h => ⟨_, FileSystem.readText_of_saveText h, lists_databaseText db.entries⟩,
    fun h => ⟨_, FileSystem.readText_of_saveText h, lists_databaseText [e]⟩⟩

/-- A source whose name is quoted and holds a control character, compiled without an output. -/
def quotedEntry : DatabaseEntry :=
  ⟨"C:\\work", "\"a\x01\".cpp", ["cl.exe", "/c", "", "\\\"\n"], none⟩

/-- A source named with a character beyond sixteen bits. -/
def distantEntry : DatabaseEntry := ⟨".", "😀.cpp", [], some "😀.obj"⟩

theorem lists_saved_twoEntries :
    let db : Database := (Database.empty.record quotedEntry).record distantEntry
    let fs : FileSystem := ⟨[], []⟩
    ((db.save fs ⟨"db.json"⟩ {}).1 = .ok () ∧
      ∃ text, (db.save fs ⟨"db.json"⟩ {}).2.readText ⟨"db.json"⟩ = .ok text ∧
        Lists text [quotedEntry, distantEntry]) ∧
    (quotedEntry.saveAlone fs ⟨"db.json"⟩ {}).1 = .ok () ∧
      ∃ text, (quotedEntry.saveAlone fs ⟨"db.json"⟩ {}).2.readText ⟨"db.json"⟩ = .ok text ∧
        Lists text [quotedEntry] := by
  intro db fs
  have hentries : db.entries = [quotedEntry, distantEntry] :=
    List.mergeSort_of_pairwise (by decide)
  have hsaved : (db.save fs ⟨"db.json"⟩ {}).1 = .ok () := by decide
  have halone : (quotedEntry.saveAlone fs ⟨"db.json"⟩ {}).1 = .ok () := by decide
  obtain ⟨hlists, hfragment⟩ := lists_saved db quotedEntry fs ⟨"db.json"⟩ {}
  rw [hentries] at hlists
  exact ⟨⟨hsaved, hlists hsaved⟩, halone, hfragment halone⟩

end Clinker

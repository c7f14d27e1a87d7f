import Clinker.Dependency.Notes
import Clinker.Proofs.Dependency.Headers
import Clinker.Proofs.Text.Lines

/-!
# Include notes and reports give the same record

A compiler names headers in the notes among its output or in a report. `IsNote` says what a note
is and what it names: everything after its words, white space included. The reader of notes drops
that white space, and of a note with nothing else it keeps one character; but a record keeps forms
for comparison, in which neither is seen (`normalForm_header`). So the record made from an output
is the record made from any report that lists what the notes of the output say
(`record_notedHeaders`).
-/

namespace Clinker.Dependency

/-! ## What a note is -/

/-- A line that is a note and the rest of it after its words, of which at least one character is
there. -/
def IsNote (line rest : List Char) : Prop :=
  ∃ space note space' including : List Char,
    line = space ++ note ++ space' ++ including ++ rest ∧
    (∀ c ∈ space, Text.isSpace c = true) ∧ note.map Char.toLower = "note:".toList ∧
    (∀ c ∈ space', Text.isSpace c = true) ∧
    including.map Char.toLower = "including file:".toList ∧ rest ≠ []

/-- What the notes among some lines say, in order. -/
inductive Noted : List (List Char) → List String → Prop
  | nil : Noted [] []
  | note {line rest : List Char} {lines : List (List Char)} {rests : List String} :
      IsNote line rest → Noted lines rests → Noted (line :: lines) (String.ofList rest :: rests)
  | other {line : List Char} {lines : List (List Char)} {rests : List String} :
      (∀ rest, ¬ IsNote line rest) → Noted lines rests → Noted (line :: lines) rests

/-- What the notes in a text say, in order. -/
def NotedIn (output : String) (rests : List String) : Prop :=
  ∃ lines, Text.Lines output.toList lines ∧ Noted lines rests

/-! ## Words -/

theorem toLower_of_isSpace {c : Char} (h : Text.isSpace c = true) : c.toLower = c := by
  have hnat : ¬ (65 ≤ c.toNat ∧ c.toNat ≤ 90) := by
    simp only [Text.isSpace, Bool.or_eq_true, Bool.and_eq_true, decide_eq_true_eq,
      beq_iff_eq] at h
    omega
  have hupper : ¬ ('A'.val ≤ c.val ∧ c.val ≤ 'Z'.val) := fun hrange =>
    hnat ⟨UInt32.le_iff_toNat_le.1 hrange.1, UInt32.le_iff_toNat_le.1 hrange.2⟩
  exact dif_neg hupper

theorem afterWord?_eq_some_iff {word cs rest : List Char} :
    afterWord? word cs = some rest ↔
      ∃ spelled, cs = spelled ++ rest ∧ spelled.map Char.toLower = word := by
  induction word generalizing cs with
  | nil => simp [afterWord?]
  | cons w word ih =>
    cases cs with
    | nil => simp [afterWord?]
    | cons c cs =>
      simp only [afterWord?, beq_iff_eq]
      constructor
      · intro h
        split at h
        · next hc =>
          obtain ⟨spelled, rfl, hspelled⟩ := ih.1 h
          exact ⟨c :: spelled, rfl, by rw [List.map_cons, hspelled, hc]⟩
        · cases h
      · rintro ⟨spelled, hcs, hspelled⟩
        obtain ⟨d, spelled, rfl, hd, hrest⟩ := List.map_eq_cons_iff.1 hspelled
        rw [List.cons_append, List.cons.injEq] at hcs
        obtain ⟨rfl, rfl⟩ := hcs
        rw [if_pos hd.symm]
        exact ih.2 ⟨spelled, rfl, hrest⟩

/-- White space before a word is skipped up to the word. -/
theorem trimStartChars_append_word {space spelled word : List Char} {w : Char}
    (hspace : ∀ c ∈ space, Text.isSpace c = true) (hword : spelled.map Char.toLower = w :: word)
    (hw : Text.isSpace w = false) (rest : List Char) :
    Text.trimStartChars (space ++ (spelled ++ rest)) = spelled ++ rest := by
  obtain ⟨c, spelled, rfl, hc, -⟩ := List.map_eq_cons_iff.1 hword
  have hne : ¬ Text.isSpace c = true := by
    intro h
    rw [toLower_of_isSpace h] at hc
    rw [← hc, h] at hw
    cases hw
  rw [Text.trimStartChars, List.dropWhile_append_of_pos hspace, List.cons_append,
    List.dropWhile_cons_of_neg hne]

theorem exists_space_append_trimStartChars (cs : List Char) :
    ∃ space, cs = space ++ Text.trimStartChars cs ∧ ∀ c ∈ space, Text.isSpace c = true :=
  ⟨cs.takeWhile Text.isSpace, List.takeWhile_append_dropWhile.symm,
    fun _ hc => List.mem_takeWhile_imp hc⟩

/-- **The reader finds the notes.** -/
theorem isNote_iff {line rest : List Char} :
    IsNote line rest ↔ noteRest? line = some rest ∧ rest ≠ [] := by
  simp only [noteRest?, Option.bind_eq_bind, Option.bind_eq_some_iff]
  constructor
  · rintro ⟨space, note, space', including, rfl, hspace, hnote, hspace', hincluding, hne⟩
    refine ⟨⟨space' ++ (including ++ rest), ?_, ?_⟩, hne⟩
    · rw [afterWord?_eq_some_iff]
      refine ⟨note, ?_, hnote⟩
      simp only [List.append_assoc]
      exact trimStartChars_append_word hspace hnote (by decide) _
    · rw [trimStartChars_append_word hspace' hincluding (by decide), afterWord?_eq_some_iff]
      exact ⟨including, rfl, hincluding⟩
  · rintro ⟨⟨middle, hnote, hincluding⟩, hne⟩
    obtain ⟨note, hline, hnote⟩ := afterWord?_eq_some_iff.1 hnote
    obtain ⟨including, hmiddle, hincluding⟩ := afterWord?_eq_some_iff.1 hincluding
    obtain ⟨space, hspace, hblank⟩ := exists_space_append_trimStartChars line
    obtain ⟨space', hspace', hblank'⟩ := exists_space_append_trimStartChars middle
    refine ⟨space, note, space', including, ?_, hblank, hnote, hblank', hincluding, hne⟩
    rw [hspace, hline, hspace', hmiddle]
    simp only [List.append_assoc]

/-! ## What the notes say -/

theorem exists_noted (lines : List (List Char)) : ∃ rests, Noted lines rests := by
  induction lines with
  | nil => exact ⟨[], .nil⟩
  | cons line lines ih =>
    obtain ⟨rests, hrests⟩ := ih
    by_cases hnote : ∃ rest, IsNote line rest
    · obtain ⟨rest, hrest⟩ := hnote
      exact ⟨_, .note hrest hrests⟩
    · exact ⟨rests, .other (not_exists.1 hnote) hrests⟩

theorem IsNote.rest_eq {line rest rest' : List Char} (h : IsNote line rest)
    (h' : IsNote line rest') : rest' = rest := by
  have heq := (isNote_iff.1 h').1
  rw [(isNote_iff.1 h).1, Option.some.injEq] at heq
  exact heq.symm

theorem Noted.eq {lines : List (List Char)} {rests rests' : List String} (h : Noted lines rests)
    (h' : Noted lines rests') : rests' = rests := by
  induction h generalizing rests' with
  | nil =>
    cases h'
    rfl
  | note hnote _ ih =>
    cases h' with
    | note hnote' h' => rw [hnote.rest_eq hnote', ih h']
    | other hother _ => exact absurd hnote (hother _)
  | other hother _ ih =>
    cases h' with
    | note hnote' _ => exact absurd hnote' (hother _)
    | other _ h' => exact ih h'

theorem notedIn_iff_noted {output : String} {rests : List String} :
    NotedIn output rests ↔ Noted (Text.lines output.toList) rests := by
  simp only [NotedIn, ← Text.lines_eq_iff, exists_eq_left']

/-! ## Forms of what is noted -/

theorem normalForm_ofList_trimChars (cs : List Char) :
    normalForm (String.ofList (Text.trimChars cs)) = normalForm (String.ofList cs) := by
  apply String.toList_injective
  simp only [toList_normalForm, String.toList_ofList, normalChars, Text.trimChars_trimChars]

theorem normalForm_ofList_of_blank {cs : List Char} (h : ∀ c ∈ cs, Text.isSpace c = true) :
    normalForm (String.ofList cs) = "" := by
  rw [normalForm_eq_empty_iff, Text.isBlank_iff, String.toList_ofList]
  exact h

/-- **The header a note names has the form of what the note says.** Trimming is not seen in it,
and both are empty for a note that says nothing but white space. -/
theorem normalForm_header {line rest : List Char} (h : IsNote line rest) :
    ∃ header, noteHeader? line = some header ∧
      normalForm (String.ofList header) = normalForm (String.ofList rest) := by
  obtain ⟨hrest, hne⟩ := isNote_iff.1 h
  cases htrim : Text.trimChars rest with
  | nil =>
    have hblank := Text.trimChars_eq_nil_iff.1 htrim
    refine ⟨[rest.getLast hne], ?_, ?_⟩
    · simp only [noteHeader?, hrest, htrim, List.getLast?_eq_some_getLast hne, Option.map_some]
    · rw [normalForm_ofList_of_blank hblank, normalForm_ofList_of_blank]
      simpa using hblank _ (List.getLast_mem hne)
  | cons c header =>
    refine ⟨c :: header, by simp only [noteHeader?, hrest, htrim], ?_⟩
    rw [← htrim, normalForm_ofList_trimChars]

/-- A line that is no note names nothing. -/
theorem noteHeader?_eq_none {line : List Char} (h : ∀ rest, ¬ IsNote line rest) :
    noteHeader? line = none := by
  cases hrest : noteRest? line with
  | none => simp only [noteHeader?, hrest]
  | some rest =>
    have hnil : rest = [] := by
      by_contra hne
      exact h rest (isNote_iff.2 ⟨hrest, hne⟩)
    subst hnil
    simp only [noteHeader?, hrest, Text.trimChars_nil, List.getLast?_nil, Option.map_none]

/-- The headers named by some lines have the forms of what the notes among them say. -/
theorem map_normalForm_noted {lines : List (List Char)} {rests : List String}
    (h : Noted lines rests) :
    ((lines.filterMap noteHeader?).map String.ofList).map normalForm = rests.map normalForm := by
  induction h with
  | nil => rfl
  | note hnote _ ih =>
    obtain ⟨header, hheader, hform⟩ := normalForm_header hnote
    rw [List.filterMap_cons_some hheader, List.map_cons, List.map_cons, ih, hform, List.map_cons]
  | other hother _ ih => rw [List.filterMap_cons_none (noteHeader?_eq_none hother), ih]

/-- A record depends only on the forms of the headers. -/
theorem record_congr {named named' : List String}
    (h : named.map normalForm = named'.map normalForm) (x : Exclusions) (object source : Path) :
    record x object source named = record x object source named' := by
  simp only [record, recordedHeaders, h]

/-- **Both ways of naming headers give the same record.** What the notes in a text say is
determined by the text, and a report that lists it leads to the same record as the text. -/
theorem record_notedHeaders (output : String) :
    ∃ rests, (∀ rests', NotedIn output rests' ↔ rests' = rests) ∧
      ∀ (x : Exclusions) (object source : Path) (report : Report),
        report.includes ++ report.headerUnits = rests →
          record x object source (notedHeaders output) = record x object source report.headers := by
  obtain ⟨rests, hrests⟩ := exists_noted (Text.lines output.toList)
  refine ⟨rests, fun rests' => ?_, fun x object source report hreport => ?_⟩
  · rw [notedIn_iff_noted]
    refine ⟨hrests.eq, ?_⟩
    rintro rfl
    exact hrests
  · rw [Report.headers, hreport]
    exact record_congr (map_normalForm_noted hrests) x object source

/-- A note may have any case and white space, may end in a carriage return, and may say nothing
but white space; another line may look like a note. -/
example : notedHeaders ("a.rc\r\n NOTE:\tincluding File: C:\\a b.h \r\nnote: including file:\n" ++
    "note:including file: \t\nnote: including  file: b.h\nNote: including file:c.h\r") =
    ["C:\\a b.h", "\t", "c.h"] := by
  decide +kernel

end Clinker.Dependency

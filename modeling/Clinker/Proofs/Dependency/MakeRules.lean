import Clinker.Proofs.Dependency.Importing
import Mathlib.Data.List.Basic

/-!
# Dependency files read by `make`

`make` gives more characters a meaning than an importer does: a `#` starts a comment that takes
away the rest of the line, and names are separated by tabs as well as spaces. Both can be written
with a backslash, but a dependency file has one only in front of spaces. So `make` reads from the
file of a record the paths of the record exactly when none of them has a `#` or a tab
(`rules_makefile_iff`). Where one has, what follows it on the line is lost or cut in two, and with
its continuations the whole file is one line.

**The meaning of a character** (`Lexeme`). Once every character of the text is replaced by what it
means where it stands, a written path is its characters one by one (`lexemes_escapedPath`): what
stands for a `#` or a tab is then never a letter, whatever the rest of the file is.
-/

namespace Clinker.Dependency

/-! ## The rules of `make` -/

/-- What a character of a makefile means where it stands. -/
inductive Lexeme
  | letter (c : Char)
  | blank
  | comment
  | lineEnd
deriving DecidableEq, Repr

namespace Lexeme

/-- The meaning of a character with no backslash in front. -/
def ofChar (c : Char) : Lexeme :=
  if c = ' ' ∨ c = '\t' then blank
  else if c = '#' then comment
  else if c = '\n' then lineEnd
  else letter c

/-- The character that a letter is. -/
def letter? : Lexeme → Option Char
  | letter c => some c
  | _ => none

end Lexeme

open Lexeme

/-- What the characters of a text mean. A backslash makes a letter of a blank or a `#`, and joins
the next line to its own with a blank between them. -/
def lexemes : List Char → List Lexeme
  | [] => []
  | '\\' :: '\n' :: cs => blank :: lexemes cs
  | '\\' :: ' ' :: cs => letter ' ' :: lexemes cs
  | '\\' :: '\t' :: cs => letter '\t' :: lexemes cs
  | '\\' :: '#' :: cs => letter '#' :: lexemes cs
  | c :: cs => ofChar c :: lexemes cs

/-- The names on a line, which ends where a comment starts. -/
def namesOn (line : List Lexeme) : List (List Char) :=
  (((line.takeWhile (· != comment)).splitOn blank).filter (!·.isEmpty)).map (·.filterMap letter?)

/-- A target and what it is made from. -/
structure Rule where
  target : String
  prerequisites : List String
deriving DecidableEq, Repr

/-- The rule that the names on a line make up. The target has a colon at its end. -/
def Rule.ofNames? : List (List Char) → Option Rule
  | [] => none
  | first :: rest =>
    if first.getLast? = some ':' then
      some ⟨String.ofList first.dropLast, rest.map String.ofList⟩
    else none

/-- The rules that `make` reads. -/
def rules (text : String) : List Rule :=
  ((lexemes text.toList).splitOn lineEnd).filterMap fun line => Rule.ofNames? (namesOn line)

/-- The rule that a record is: its source and its headers are what its object is made from. -/
def Record.rule (r : Record) : Rule :=
  ⟨Dependency.slashed r.object.text,
    Dependency.slashed r.source.text :: r.headers.map Dependency.slashed⟩

/-! ## Written paths -/

open Record

/-- What a character of a path means in a dependency file. -/
def pathLexeme (c : Char) : Lexeme := if c = ' ' then letter ' ' else ofChar (slash c)

/-- **A character of a path has a meaning of its own**, or is the letter that it should be. -/
theorem pathLexeme_cases (c : Char) :
    c = '#' ∧ pathLexeme c = comment ∨ c = '\t' ∧ pathLexeme c = blank ∨
    c = '\n' ∧ pathLexeme c = lineEnd ∨
    c ≠ '#' ∧ c ≠ '\t' ∧ c ≠ '\n' ∧ pathLexeme c = letter (slash c) := by
  by_cases hspace : c = ' '
  · subst hspace
    decide
  · by_cases hback : c = '\\'
    · subst hback
      decide
    · have hslash : slash c = c := if_neg (by simpa using hback)
      simp only [pathLexeme, ofChar, hslash, hspace, false_or]
      grind

theorem lexemes_cons {c : Char} (h : c ≠ '\\') (cs : List Char) :
    lexemes (c :: cs) = ofChar c :: lexemes cs := by
  rw [lexemes] <;> simp_all

/-- **A written path is read character by character.** -/
theorem lexemes_escapedPath (cs rest : List Char) :
    lexemes (escapedPath cs ++ rest) = cs.map pathLexeme ++ lexemes rest := by
  induction cs with
  | nil => rfl
  | cons c cs ih =>
    by_cases hc : c = ' '
    · subst hc
      rw [escapedPath_space, List.cons_append, List.cons_append, lexemes, ih]
      rfl
    · rw [escapedPath_cons hc, List.cons_append, lexemes_cons (slash_ne_backslash c), ih,
        List.map_cons, List.cons_append, pathLexeme, if_neg hc]

/-! ## The line that a file is -/

/-- What stands between two paths. -/
def gap : List Lexeme := [blank, blank, blank, blank]

/-- The line that the file of a record is. -/
def Record.line (r : Record) : List Lexeme :=
  r.object.text.toList.map pathLexeme ++ letter ':' ::
    (r.source.text :: r.headers).flatMap fun path => gap ++ path.toList.map pathLexeme

theorem lexemes_prerequisites (paths : List String) (rest : List Char) :
    lexemes (paths.flatMap (fun path => continuation ++ escapedPath path.toList) ++ rest) =
      paths.flatMap (fun path => gap ++ path.toList.map pathLexeme) ++ lexemes rest := by
  have hgap : ∀ cs, lexemes (continuation ++ cs) = gap ++ lexemes cs := by
    intro cs
    simp [continuation, gap, lexemes, ofChar]
  induction paths with
  | nil => rfl
  | cons path paths ih =>
    simp only [List.flatMap_cons, List.append_assoc]
    rw [hgap, lexemes_escapedPath, ih]

theorem lexemes_makefile (r : Record) : lexemes r.makefile.toList = r.line ++ [lineEnd] := by
  have hchars : r.makefile.toList = escapedPath r.object.text.toList ++ ':' ::
      ((r.source.text :: r.headers).flatMap
        (fun path => continuation ++ escapedPath path.toList) ++ ['\n']) := by
    simp [makefile, makefileChars]
  have hcolon : ofChar ':' = letter ':' := by decide
  have hend : lexemes ['\n'] = [lineEnd] := by decide
  rw [hchars, lexemes_escapedPath, lexemes_cons (by decide), lexemes_prerequisites, hcolon, hend,
    Record.line, List.append_assoc, List.cons_append]

/-- What stands on the line is a colon, a blank of a gap, or in one of the paths. -/
theorem mem_line {r : Record} {l : Lexeme} (h : l ∈ r.line) :
    l = letter ':' ∨ l = blank ∨ ∃ path ∈ r.paths, ∃ c ∈ path.toList, l = pathLexeme c := by
  have hpath : ∀ {path : String}, path ∈ r.paths → l ∈ path.toList.map pathLexeme →
      ∃ path ∈ r.paths, ∃ c ∈ path.toList, l = pathLexeme c := by
    intro path hpath hl
    obtain ⟨c, hc, rfl⟩ := List.mem_map.1 hl
    exact ⟨path, hpath, c, hc, rfl⟩
  rw [Record.line, List.mem_append, List.mem_cons, List.mem_flatMap] at h
  obtain hobject | hcolon | ⟨path, hmem, hl⟩ := h
  · exact .inr (.inr (hpath List.mem_cons_self hobject))
  · exact .inl hcolon
  · obtain hgap | hl := List.mem_append.1 hl
    · exact .inr (.inl (by simpa [gap] using hgap))
    · exact .inr (.inr (hpath (List.mem_cons_of_mem _ hmem) hl))

/-- Without line feeds the line is the only one. -/
theorem rules_makefile {r : Record} (h : ∀ path ∈ r.paths, Importable path) :
    rules r.makefile = (Rule.ofNames? (namesOn r.line)).toList := by
  have hline : lineEnd ∉ r.line := by
    intro hmem
    obtain hl | hl | ⟨path, hpath, c, hc, hl⟩ := mem_line hmem
    · cases hl
    · cases hl
    · obtain ⟨-, hc'⟩ | ⟨-, hc'⟩ | ⟨rfl, -⟩ | ⟨-, -, -, hc'⟩ := pathLexeme_cases c
      · simp [hc'] at hl
      · simp [hc'] at hl
      · exact (h path hpath).2 hc
      · simp [hc'] at hl
  have hlast : Rule.ofNames? (namesOn []) = none := by decide
  rw [rules, lexemes_makefile, List.splitOn_append_cons_self, List.splitOn_eq_singleton hline,
    List.splitOn_nil, List.singleton_append]
  cases hrule : Rule.ofNames? (namesOn r.line) <;> simp [hrule, hlast]

/-! ## The names on the line -/

theorem mem_of_mem_splitOn {sep l : Lexeme} {line word : List Lexeme}
    (hword : word ∈ line.splitOn sep) (hl : l ∈ word) : l ∈ line := by
  induction line generalizing word with
  | nil => simp_all
  | cons first line ih =>
    obtain ⟨w, ws, hcons⟩ := List.exists_cons_of_ne_nil (List.splitOn_ne_nil sep line)
    have hw : w ∈ line.splitOn sep := by simp [hcons]
    have hws : ∀ w' ∈ ws, w' ∈ line.splitOn sep := by
      intro w' hw'
      simp [hcons, hw']
    rw [List.splitOn_cons_eq_if_modifyHead, hcons, List.modifyHead_cons] at hword
    split at hword
    · obtain rfl | hword := List.mem_cons.1 hword
      · cases hl
      · rw [← hcons] at hword
        exact List.mem_cons_of_mem _ (ih hword hl)
    · obtain rfl | hword := List.mem_cons.1 hword
      · obtain rfl | hl := List.mem_cons.1 hl
        · exact List.mem_cons_self
        · exact List.mem_cons_of_mem _ (ih hw hl)
      · exact List.mem_cons_of_mem _ (ih (hws word hword) hl)

/-- The letters of a name are on the line. -/
theorem mem_of_mem_namesOn {line : List Lexeme} {name : List Char} {c : Char}
    (hname : name ∈ namesOn line) (hc : c ∈ name) : letter c ∈ line := by
  obtain ⟨word, hword, rfl⟩ := List.mem_map.1 hname
  obtain ⟨l, hl, hletter⟩ := List.mem_filterMap.1 hc
  have hlc : l = letter c := by
    cases l <;> simp_all [letter?]
  have hline := mem_of_mem_splitOn (List.mem_filter.1 hword).1 (hlc ▸ hl)
  exact List.takeWhile_subset _ hline

section Words

variable {word : List Char}

theorem takeWhile_letters (word : List Char) (line : List Lexeme) :
    (word.map letter ++ line).takeWhile (· != comment) =
      word.map letter ++ line.takeWhile (· != comment) := by
  refine List.takeWhile_append_of_pos fun l hl => ?_
  obtain ⟨c, -, rfl⟩ := List.mem_map.1 hl
  rfl

theorem blank_not_mem_letters (word : List Char) : blank ∉ word.map letter := by
  simp

/-- Letters are the name that they spell. -/
theorem namesOn_letters (hword : word ≠ []) : namesOn (word.map letter) = [word] := by
  have htake := takeWhile_letters word []
  rw [List.append_nil, List.takeWhile_nil, List.append_nil] at htake
  rw [namesOn, htake, List.splitOn_eq_singleton (blank_not_mem_letters word)]
  simp [hword, List.filterMap_map, Function.comp_def, letter?]

/-- **Letters up to a gap are a name.** -/
theorem namesOn_letters_gap (hword : word ≠ []) (line : List Lexeme) :
    namesOn (word.map letter ++ (gap ++ line)) = word :: namesOn line := by
  have hgap : (gap ++ line).takeWhile (· != comment) =
      blank :: ([blank, blank, blank] ++ line.takeWhile (· != comment)) := rfl
  rw [namesOn, takeWhile_letters, hgap,
    List.splitOn_append_cons_self_of_not_mem (blank_not_mem_letters word)]
  simp [namesOn, hword, List.filterMap_map, Function.comp_def, letter?,
    List.splitOn_cons_eq_if_modifyHead]

/-- Words with gaps between them are the names on their line. -/
theorem namesOn_words {words : List (List Char)} (hword : word ≠ [])
    (hwords : ∀ next ∈ words, next ≠ []) :
    namesOn (word.map letter ++ words.flatMap fun next => gap ++ next.map letter) =
      word :: words := by
  induction words generalizing word with
  | nil => rw [List.flatMap_nil, List.append_nil, namesOn_letters hword]
  | cons next words ih =>
    rw [List.forall_mem_cons] at hwords
    rw [List.flatMap_cons, List.append_assoc, namesOn_letters_gap hword, ih hwords.1 hwords.2]

end Words

/-! ## What is read of a record -/

/-- A path in which `make` gives no character a meaning: it has no `#` and no tab. -/
def Unmarked (path : String) : Prop := '#' ∉ path.toList ∧ '\t' ∉ path.toList

instance (path : String) : Decidable (Unmarked path) :=
  inferInstanceAs (Decidable ('#' ∉ path.toList ∧ '\t' ∉ path.toList))

theorem map_pathLexeme {path : String} (h : Importable path) (hpath : Unmarked path) :
    path.toList.map pathLexeme = (slashed path).toList.map letter := by
  rw [slashed, Text.toList_onChars, forwardSeparators, List.map_map]
  refine List.map_congr_left fun c hc => ?_
  obtain ⟨rfl, -⟩ | ⟨rfl, -⟩ | ⟨rfl, -⟩ | ⟨-, -, -, hletter⟩ := pathLexeme_cases c
  · exact absurd hc hpath.1
  · exact absurd hc hpath.2
  · exact absurd hc h.2
  · exact hletter

theorem slashed_ne_nil {path : String} (h : Importable path) : (slashed path).toList ≠ [] := by
  rw [slashed, Text.toList_onChars, forwardSeparators]
  exact fun hnil => h.toList_ne_nil (List.map_eq_nil_iff.1 hnil)

/-- **Where no character has a meaning, the names on the line are the paths.** -/
theorem namesOn_line {r : Record} (h : ∀ path ∈ r.paths, Importable path)
    (hpaths : ∀ path ∈ r.paths, Unmarked path) :
    namesOn r.line = ((slashed r.object.text).toList ++ [':']) ::
      (r.source.text :: r.headers).map fun path => (slashed path).toList := by
  have hobject : r.object.text ∈ r.paths := List.mem_cons_self
  have hothers : ∀ path ∈ r.source.text :: r.headers, path ∈ r.paths :=
    fun path hpath => List.mem_cons_of_mem _ hpath
  have hline : r.line = ((slashed r.object.text).toList ++ [':']).map letter ++
      ((r.source.text :: r.headers).map fun path => (slashed path).toList).flatMap
        fun word => gap ++ word.map letter := by
    rw [Record.line, map_pathLexeme (h _ hobject) (hpaths _ hobject), List.flatMap_map,
      List.map_append, List.append_assoc]
    refine congrArg (_ ++ letter ':' :: ·) (List.flatMap_congr fun path hpath => ?_)
    rw [map_pathLexeme (h _ (hothers path hpath)) (hpaths _ (hothers path hpath))]
  rw [hline, namesOn_words (by simp)]
  intro word hword
  obtain ⟨path, hpath, rfl⟩ := List.mem_map.1 hword
  exact slashed_ne_nil (h path (hothers path hpath))

/-- No letter of the line is a `#` or a tab. -/
theorem unmarked_of_letter_mem_line {r : Record} {c : Char} (h : letter c ∈ r.line) :
    c ≠ '#' ∧ c ≠ '\t' := by
  obtain hl | hl | ⟨path, -, d, -, hl⟩ := mem_line h
  · obtain rfl := letter.inj hl
    decide
  · cases hl
  · obtain ⟨-, hd⟩ | ⟨-, hd⟩ | ⟨-, hd⟩ | ⟨hsharp, htab, -, hd⟩ := pathLexeme_cases d
    · simp [hd] at hl
    · simp [hd] at hl
    · simp [hd] at hl
    · rw [hd] at hl
      obtain rfl := letter.inj hl
      exact ⟨slash_ne hsharp (by decide), slash_ne htab (by decide)⟩

theorem ofNames?_eq_some {names : List (List Char)} {rule : Rule}
    (h : Rule.ofNames? names = some rule) :
    ∃ first rest, names = first :: rest ∧ rule.target = String.ofList first.dropLast ∧
      rule.prerequisites = rest.map String.ofList := by
  cases names with
  | nil => cases h
  | cons first rest =>
    rw [Rule.ofNames?] at h
    split at h
    · cases h
      exact ⟨first, rest, rfl, rfl, rfl⟩
    · cases h

/-- **What is read has no `#` and no tab.** -/
theorem unmarked_of_read {r : Record} {rule : Rule}
    (h : Rule.ofNames? (namesOn r.line) = some rule) :
    ∀ path ∈ rule.target :: rule.prerequisites, Unmarked path := by
  obtain ⟨first, rest, hnames, htarget, hrest⟩ := ofNames?_eq_some h
  have hmem : ∀ name ∈ first :: rest, ∀ c ∈ name, c ≠ '#' ∧ c ≠ '\t' := by
    intro name hname c hc
    exact unmarked_of_letter_mem_line (mem_of_mem_namesOn (hnames ▸ hname) hc)
  have hunmarked : ∀ name : List Char, (∀ c ∈ name, c ≠ '#' ∧ c ≠ '\t') →
      Unmarked (String.ofList name) := by
    intro name hname
    rw [Unmarked, String.toList_ofList]
    exact ⟨fun hsharp => (hname _ hsharp).1 rfl, fun htab => (hname _ htab).2 rfl⟩
  rw [htarget, hrest, List.forall_mem_cons]
  refine ⟨hunmarked _ fun c hc => ?_, fun path hpath => ?_⟩
  · exact hmem first List.mem_cons_self c (List.dropLast_subset _ hc)
  · obtain ⟨name, hname, rfl⟩ := List.mem_map.1 hpath
    exact hunmarked _ (hmem name (List.mem_cons_of_mem _ hname))

theorem unmarked_of_slashed {path : String} (h : Unmarked (slashed path)) : Unmarked path := by
  rw [Unmarked, slashed, Text.toList_onChars, forwardSeparators] at h
  exact ⟨fun hsharp => h.1 (List.mem_map.2 ⟨_, hsharp, rfl⟩),
    fun htab => h.2 (List.mem_map.2 ⟨_, htab, rfl⟩)⟩

/-- **What `make` reads from a dependency file.** If no path of a record is empty or has a line
feed, then `make` reads the record from its file, the object as the target and the source and the
headers in order as what it is made from, each with `/` for every separator, exactly when no path
has a `#` or a tab. -/
theorem rules_makefile_iff (r : Record) (h : ∀ path ∈ r.paths, Importable path) :
    rules r.makefile = [r.rule] ↔ ∀ path ∈ r.paths, Unmarked path := by
  rw [rules_makefile h]
  constructor
  · intro hread
    have hrule : Rule.ofNames? (namesOn r.line) = some r.rule := by
      cases hnames : Rule.ofNames? (namesOn r.line) <;> simp_all
    have hunmarked := unmarked_of_read hrule
    simp only [Record.rule, Record.paths, List.forall_mem_cons, List.forall_mem_map] at hunmarked ⊢
    exact ⟨unmarked_of_slashed hunmarked.1, unmarked_of_slashed hunmarked.2.1,
      fun header hheader => unmarked_of_slashed (hunmarked.2.2 header hheader)⟩
  · intro hpaths
    rw [namesOn_line h hpaths, Rule.ofNames?, if_pos (by simp)]
    simp [Record.rule, Function.comp_def]

theorem rules_spacedRecord : (∀ path ∈ spacedRecord.paths, Importable path) ∧
    rules spacedRecord.makefile =
      [⟨" out dir/a.obj ", ["/ s:/", " ", "c:/my/ header.h", ":"]⟩] := by
  have h : ∀ path ∈ spacedRecord.paths, Importable path := by decide
  exact ⟨h, ((rules_makefile_iff spacedRecord h).2 (by decide)).trans (by decide)⟩

/-- A `#` in the name of a folder takes away the header below it and the header after it. -/
theorem rules_sharpFolder :
    let r : Record := ⟨⟨"a.obj"⟩, ⟨"a.cpp"⟩, ["c:/c#/x.h", "c:/y.h"]⟩
    (∀ path ∈ r.paths, Importable path) ∧ rules r.makefile = [⟨"a.obj", ["a.cpp", "c:/c"]⟩] ∧
      rules r.makefile ≠ [r.rule] := by
  decide +kernel

end Clinker.Dependency

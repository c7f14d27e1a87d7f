import Clinker.Dependency.Record

/-!
# Dependency files read by an importer

An importer of dependency files joins lines that a backslash continues, cuts the text at spaces
and line feeds that no backslash precedes, and takes the backslash from in front of a space. It
reads from the file of a record the paths of the record, in order, with `/` for every separator,
and with a colon after the first (`importedNames_makefile`).

**Why spaces and backslashes do not mix.** A written path has a backslash only in front of a
space, whatever path it was made of. So no step of the importer can take part of a path for a
continuation or a gap, and each step acts on a written path apart from what follows it
(`joinLines_escapedPath`, `unescapedPieces_escapedPath`, `unescape_escapedPath`).
-/

namespace Clinker.Dependency

/-! ## The importer -/

/-- The text with continued lines joined. -/
def joinLines : List Char → List Char
  | [] => []
  | '\\' :: '\n' :: cs => joinLines cs
  | c :: cs => c :: joinLines cs

/-- The pieces of a text between spaces and line feeds. One that comes right after a backslash is
part of a piece; `escaped` says that a backslash comes right before the text. -/
def unescapedPieces (escaped : Bool) : List Char → List (List Char)
  | [] => [[]]
  | c :: cs =>
    if !escaped && (c == ' ' || c == '\n') then [] :: unescapedPieces false cs
    else (unescapedPieces (c == '\\') cs).modifyHead (c :: ·)

/-- The text with `\ ` replaced by a space. -/
def unescape : List Char → List Char
  | [] => []
  | '\\' :: ' ' :: cs => ' ' :: unescape cs
  | c :: cs => c :: unescape cs

/-- The pieces of a text that are not empty. -/
def unescapedWords (cs : List Char) : List (List Char) :=
  (unescapedPieces false cs).filter (!·.isEmpty)

/-- The names an importer reads. -/
def importedNames (text : String) : List String :=
  ((unescapedWords (joinLines text.toList)).map unescape).map String.ofList

/-! ## Written paths -/

/-- A character of a path with `/` for every separator. -/
def slash (c : Char) : Char := if c == '\\' then '/' else c

theorem slash_ne_backslash (c : Char) : slash c ≠ '\\' := by
  unfold slash
  split
  · decide
  · next h => simpa using h

theorem slash_ne {c d : Char} (h : c ≠ d) (hd : d ≠ '/') : slash c ≠ d := by
  unfold slash
  split
  · exact hd.symm
  · exact h

theorem forwardSeparators_cons (c : Char) (cs : List Char) :
    forwardSeparators (c :: cs) = slash c :: forwardSeparators cs := rfl

namespace Record

theorem escapedPath_space (cs : List Char) :
    escapedPath (' ' :: cs) = '\\' :: ' ' :: escapedPath cs := rfl

theorem escapedPath_cons {c : Char} (h : c ≠ ' ') (cs : List Char) :
    escapedPath (c :: cs) = slash c :: escapedPath cs := by
  have hslash : slash c ≠ ' ' := slash_ne h (by decide)
  simp [escapedPath, Text.replaceChar, forwardSeparators_cons, hslash]

theorem escapedPath_ne_nil {cs : List Char} (h : cs ≠ []) : escapedPath cs ≠ [] := by
  cases cs with
  | nil => exact absurd rfl h
  | cons c cs =>
    by_cases hc : c = ' '
    · subst hc
      simp [escapedPath_space]
    · simp [escapedPath_cons hc]

end Record

open Record

/-! ## Each step on a written path -/

theorem joinLines_cons {c : Char} (h : c ≠ '\\') (cs : List Char) :
    joinLines (c :: cs) = c :: joinLines cs := by
  rw [joinLines]
  rintro cs' rfl
  exact absurd rfl h

theorem joinLines_backslash_space (cs : List Char) :
    joinLines ('\\' :: ' ' :: cs) = '\\' :: ' ' :: joinLines cs := by
  simp [joinLines]

/-- **Joining lines leaves a written path alone.** -/
theorem joinLines_escapedPath {cs : List Char} (rest : List Char) :
    joinLines (escapedPath cs ++ rest) = escapedPath cs ++ joinLines rest := by
  induction cs with
  | nil => rfl
  | cons c cs ih =>
    by_cases hc : c = ' '
    · subst hc
      rw [escapedPath_space, List.cons_append, List.cons_append, joinLines_backslash_space, ih,
        List.cons_append, List.cons_append]
    · rw [escapedPath_cons hc, List.cons_append, joinLines_cons (slash_ne_backslash c), ih,
        List.cons_append]

/-- A continuation is joined to three spaces. -/
theorem joinLines_continuation (rest : List Char) :
    joinLines (continuation ++ rest) = ' ' :: ' ' :: ' ' :: joinLines rest := by
  simp [continuation, joinLines]

theorem unescapedPieces_of_ne {c : Char} (hspace : c ≠ ' ') (hline : c ≠ '\n')
    (hback : c ≠ '\\') (cs : List Char) :
    unescapedPieces false (c :: cs) = (unescapedPieces false cs).modifyHead (c :: ·) := by
  have hback' : (c == '\\') = false := by simpa using hback
  simp [unescapedPieces, hspace, hline, hback']

/-- **A written path is part of one piece.** -/
theorem unescapedPieces_escapedPath {cs : List Char} (h : '\n' ∉ cs) (rest : List Char) :
    unescapedPieces false (escapedPath cs ++ rest) =
      (unescapedPieces false rest).modifyHead (escapedPath cs ++ ·) := by
  induction cs with
  | nil => exact (congrFun List.modifyHead_id _).symm
  | cons c cs ih =>
    obtain ⟨hline, hcs⟩ : '\n' ≠ c ∧ '\n' ∉ cs := by simpa using h
    by_cases hc : c = ' '
    · subst hc
      simp [escapedPath_space, unescapedPieces, ih hcs, List.modifyHead_modifyHead,
        Function.comp_def]
    · have hne := slash_ne hc (d := ' ') (by decide)
      have hne' := slash_ne hline.symm (by decide)
      simp only [escapedPath_cons hc, List.cons_append]
      rw [unescapedPieces_of_ne hne hne' (slash_ne_backslash c), ih hcs,
        List.modifyHead_modifyHead]
      rfl

theorem unescape_cons {c : Char} (h : c ≠ '\\') (cs : List Char) :
    unescape (c :: cs) = c :: unescape cs := by
  rw [unescape]
  rintro cs' rfl
  exact absurd rfl h

/-- **A written path is read as the path it was made of.** -/
theorem unescape_escapedPath (cs rest : List Char) :
    unescape (escapedPath cs ++ rest) = forwardSeparators cs ++ unescape rest := by
  induction cs with
  | nil => rfl
  | cons c cs ih =>
    by_cases hc : c = ' '
    · subst hc
      rw [escapedPath_space, List.cons_append, List.cons_append, unescape, ih]
      rfl
    · rw [escapedPath_cons hc, List.cons_append, unescape_cons (slash_ne_backslash c), ih,
        forwardSeparators_cons, List.cons_append]

/-! ## Words -/

theorem unescapedWords_space (cs : List Char) :
    unescapedWords (' ' :: cs) = unescapedWords cs := by
  simp [unescapedWords, unescapedPieces]

/-- A written path is one word, whether a space or a line feed ends it. -/
theorem unescapedWords_escapedPath {cs : List Char} (hline : '\n' ∉ cs) (hne : cs ≠ []) {c : Char}
    (hc : c = ' ' ∨ c = '\n') (rest : List Char) :
    unescapedWords (escapedPath cs ++ c :: rest) = escapedPath cs :: unescapedWords rest := by
  have hpieces : unescapedPieces false (c :: rest) = [] :: unescapedPieces false rest := by
    rcases hc with rfl | rfl <;> simp [unescapedPieces]
  have hword := escapedPath_ne_nil hne
  simp [unescapedWords, unescapedPieces_escapedPath hline, hpieces, hword]

/-- The first path takes the colon with it. -/
theorem unescapedWords_target {cs : List Char} (hline : '\n' ∉ cs) (rest : List Char) :
    unescapedWords (escapedPath cs ++ ':' :: ' ' :: rest) =
      (escapedPath cs ++ [':']) :: unescapedWords rest := by
  have hpieces : unescapedPieces false (':' :: ' ' :: rest) =
      [':'] :: unescapedPieces false rest := by
    simp [unescapedPieces]
  simp [unescapedWords, unescapedPieces_escapedPath hline, hpieces]

/-! ## Whole files -/

/-- A path with `/` for every separator. -/
def slashed (path : String) : String := Text.onChars forwardSeparators path

/-- A path that an importer can be told: it is not empty and has no line feed. -/
def Importable (path : String) : Prop := path ≠ "" ∧ '\n' ∉ path.toList

instance (path : String) : Decidable (Importable path) :=
  inferInstanceAs (Decidable (path ≠ "" ∧ '\n' ∉ path.toList))

theorem Importable.toList_ne_nil {path : String} (h : Importable path) : path.toList ≠ [] :=
  fun hnil => h.1 (String.toList_eq_nil_iff.1 hnil)

/-- **Each line of the list of prerequisites is one word.** The induction is on the headers that
are still to come after the path `path`. -/
theorem unescapedWords_prerequisites {path : String} (hpath : Importable path)
    {headers : List String} (h : ∀ header ∈ headers, Importable header) :
    unescapedWords (joinLines (escapedPath path.toList ++
        (headers.flatMap (fun header => continuation ++ escapedPath header.toList) ++ ['\n']))) =
      escapedPath path.toList :: headers.map fun header => escapedPath header.toList := by
  induction headers generalizing path with
  | nil =>
    rw [joinLines_escapedPath, List.flatMap_nil, List.nil_append,
      joinLines_cons (by decide : '\n' ≠ '\\'),
      unescapedWords_escapedPath hpath.2 hpath.toList_ne_nil (.inr rfl)]
    rfl
  | cons header headers ih =>
    rw [List.forall_mem_cons] at h
    rw [joinLines_escapedPath, List.flatMap_cons, List.append_assoc, List.append_assoc,
      joinLines_continuation,
      unescapedWords_escapedPath hpath.2 hpath.toList_ne_nil (.inl rfl), unescapedWords_space,
      unescapedWords_space, ih h.1 h.2, List.map_cons]

namespace Record

/-- All paths of a record, in the order in which they are written. -/
def paths (r : Record) : List String := r.object.text :: r.source.text :: r.headers

/-- The record with `/` for every separator. -/
def slashed (r : Record) : Record :=
  ⟨⟨Dependency.slashed r.object.text⟩, ⟨Dependency.slashed r.source.text⟩,
    r.headers.map Dependency.slashed⟩

theorem escapedPath_forwardSeparators (cs : List Char) :
    escapedPath (forwardSeparators cs) = escapedPath cs := by
  have hidem : forwardSeparators (forwardSeparators cs) = forwardSeparators cs := by
    have hslash : ∀ c, slash (slash c) = slash c := fun c =>
      if_neg (by simpa using slash_ne_backslash c)
    rw [forwardSeparators, forwardSeparators, List.map_map]
    exact List.map_congr_left fun c _ => hslash c
  rw [escapedPath, hidem, escapedPath]

/-- The file shows only the form with `/`. -/
theorem makefile_slashed (r : Record) : r.slashed.makefile = r.makefile := by
  simp [makefile, makefileChars, slashed, Dependency.slashed, escapedPath_forwardSeparators,
    List.flatMap_map]

end Record

theorem ofList_unescape_escapedPath (path : String) :
    String.ofList (unescape (escapedPath path.toList)) = slashed path := by
  have := unescape_escapedPath path.toList []
  rw [List.append_nil, unescape, List.append_nil] at this
  rw [this]
  rfl

/-- The names read from the file of a record are its paths, with a colon after the first. -/
theorem importedNames_of_importable {r : Record} (h : ∀ path ∈ r.paths, Importable path) :
    importedNames r.makefile =
      (slashed r.object.text ++ ":") :: slashed r.source.text :: r.headers.map slashed := by
  obtain ⟨hobject, hsource, hheaders⟩ : Importable r.object.text ∧ Importable r.source.text ∧
      ∀ header ∈ r.headers, Importable header := by simpa [Record.paths] using h
  have hchars : r.makefile.toList = escapedPath r.object.text.toList ++ ':' :: (continuation ++
      (escapedPath r.source.text.toList ++ (r.headers.flatMap (fun header =>
        continuation ++ escapedPath header.toList) ++ ['\n']))) := by
    simp [makefile, makefileChars]
  have htarget : String.ofList (unescape (escapedPath r.object.text.toList ++ [':'])) =
      slashed r.object.text ++ ":" := by
    rw [unescape_escapedPath, String.ofList_append]
    rfl
  rw [importedNames, hchars, joinLines_escapedPath, joinLines_cons (by decide : ':' ≠ '\\'),
    joinLines_continuation, unescapedWords_target hobject.2, unescapedWords_space,
    unescapedWords_space, unescapedWords_prerequisites hsource hheaders]
  simp only [List.map_cons, List.map_map, Function.comp_def, htarget, ofList_unescape_escapedPath]

/-- Files from which the same names are read are files of the same paths. -/
theorem slashed_eq_of_makefile_eq {r r' : Record} (h : ∀ path ∈ r.paths, Importable path)
    (h' : ∀ path ∈ r'.paths, Importable path) (heq : r.makefile = r'.makefile) :
    r.slashed = r'.slashed := by
  have hnames := importedNames_of_importable h
  rw [heq, importedNames_of_importable h', List.cons.injEq, List.cons.injEq] at hnames
  obtain ⟨hobject, hsource, hheaders⟩ := hnames
  rw [String.append_left_inj] at hobject
  rw [Record.slashed, Record.slashed, hobject, hsource, hheaders]

/-- **A dependency file says what its record says.** If no path of a record is empty or has a line
feed, an importer reads the object with a colon after it, then the source, then the headers in
order, each with `/` for every separator; and of two such records the files are the same exactly
when the records are the same up to their separators. -/
theorem importedNames_makefile (r : Record) (h : ∀ path ∈ r.paths, Importable path) :
    importedNames r.makefile =
      (slashed r.object.text ++ ":") :: slashed r.source.text :: r.headers.map slashed ∧
    ∀ r' : Record, (∀ path ∈ r'.paths, Importable path) →
      (r.makefile = r'.makefile ↔ r.slashed = r'.slashed) := by
  refine ⟨importedNames_of_importable h, fun r' h' => ⟨slashed_eq_of_makefile_eq h h', ?_⟩⟩
  intro heq
  rw [← r.makefile_slashed, heq, r'.makefile_slashed]

/-- A record of paths with spaces at both ends, colons and backslashes. -/
def spacedRecord : Record :=
  ⟨⟨" out dir\\a.obj "⟩, ⟨"\\ s:\\"⟩, [" ", "c:/my\\ header.h", ":"]⟩

theorem importedNames_spacedRecord : (∀ path ∈ spacedRecord.paths, Importable path) ∧
    importedNames spacedRecord.makefile =
      [" out dir/a.obj :", "/ s:/", " ", "c:/my/ header.h", ":"] := by
  have h : ∀ path ∈ spacedRecord.paths, Importable path := by decide
  exact ⟨h, (importedNames_makefile spacedRecord h).1.trans (by decide)⟩

end Clinker.Dependency

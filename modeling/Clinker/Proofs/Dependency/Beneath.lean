import Clinker.Proofs.Dependency.Headers
import Clinker.Proofs.Dependency.Spelling

/-!
# What lies beneath an excluded directory

A header beneath an excluded directory is never recorded, however its path is spelled and whatever
else is excluded, with one exception: a directory that is a single separator covers only itself
(`never_recorded_below_iff`).

**The stem.** Of a directory that ends in a separator only what stands before that separator
matters, so both kinds of directories have a stem: the path below is the stem, one separator and
the rest (`exists_stem`). The form of the directory is then that of its stem, and the form of the
path continues it after a `/`, whatever number of separators the stem still ends in
(`liesUnder_dropEndSeparators`). A single separator has an empty stem. Dropping separators at its
end stops at the separator itself, and after it a path would need a second one.
-/

namespace Clinker.Dependency

/-! ## Separators at the end -/

theorem dropEndSeparators_of_ne {cs : List Char}
    (h : Text.dropEndWhile (· == '/') cs ≠ []) :
    dropEndSeparators cs = Text.dropEndWhile (· == '/') cs := by
  simp [dropEndSeparators, h]

theorem dropEndSeparators_of_eq_nil {cs : List Char}
    (h : Text.dropEndWhile (· == '/') cs = []) (hcs : cs ≠ []) : dropEndSeparators cs = ['/'] := by
  simp [dropEndSeparators, h, hcs]

theorem dropEndSeparators_append_of_ne {back : List Char}
    (h : Text.dropEndWhile (· == '/') back ≠ []) (front : List Char) :
    dropEndSeparators (front ++ back) = front ++ Text.dropEndWhile (· == '/') back := by
  have hdrop : Text.dropEndWhile (· == '/') (front ++ back) =
      front ++ Text.dropEndWhile (· == '/') back := Text.dropEndWhile_append_of_ne h
  simp [dropEndSeparators, hdrop, h]

/-- A separator before something else stays. -/
theorem dropEndSeparators_slash_cons {c : Char} (h : c ≠ '/') (cs : List Char) :
    dropEndSeparators ('/' :: c :: cs) = '/' :: c :: Text.dropEndWhile (· == '/') cs := by
  have hdrop : Text.dropEndWhile (· == '/') (['/', c] ++ cs) =
      ['/', c] ++ Text.dropEndWhile (· == '/') cs :=
    Text.dropEndWhile_append (by simpa using h) cs
  rw [List.cons_append, List.singleton_append] at hdrop
  rw [dropEndSeparators_of_ne, hdrop]
  · rfl
  · rw [hdrop]
    exact List.cons_ne_nil _ _

/-- More separators at the end make no difference. -/
theorem dropEndSeparators_append_of_forall {front back : List Char}
    (hback : ∀ c ∈ back, c = '/') (hfront : front ≠ []) :
    dropEndSeparators (front ++ back) = dropEndSeparators front := by
  have hdrop : Text.dropEndWhile (· == '/') (front ++ back) =
      Text.dropEndWhile (· == '/') front :=
    Text.dropEndWhile_append_of_forall (by simpa using hback) front
  simp [dropEndSeparators, hdrop, hfront]

/-- Only separators are dropped. -/
theorem exists_dropEndSeparators_append (cs : List Char) :
    ∃ back, (∀ c ∈ back, c = '/') ∧ cs = dropEndSeparators cs ++ back := by
  by_cases hkept : Text.dropEndWhile (· == '/') cs = []
  · have hall : ∀ c ∈ cs, c = '/' := by simpa using Text.dropEndWhile_eq_nil_iff.1 hkept
    cases cs with
    | nil => exact ⟨[], by simp, rfl⟩
    | cons c cs =>
      rw [List.forall_mem_cons] at hall
      refine ⟨cs, hall.2, ?_⟩
      rw [dropEndSeparators_of_eq_nil hkept (List.cons_ne_nil c cs), hall.1]
      rfl
  · refine ⟨cs.rtakeWhile (· == '/'), ?_, ?_⟩
    · intro c hc
      simpa using List.mem_rtakeWhile_imp hc
    · rw [dropEndSeparators_of_ne hkept]
      exact (List.rdropWhile_append_rtakeWhile).symm

/-- **A text continued after a separator lies under it, also when both lose the separators at
their ends.** -/
theorem liesUnder_dropEndSeparators {cs : List Char} (hcs : cs ≠ []) (rest : List Char) :
    liesUnder (dropEndSeparators cs) (dropEndSeparators (cs ++ '/' :: rest)) = true := by
  rw [liesUnder_iff]
  by_cases hrest : Text.dropEndWhile (· == '/') rest = []
  · left
    apply dropEndSeparators_append_of_forall _ hcs
    simpa using Text.dropEndWhile_eq_nil_iff.1 hrest
  · right
    -- What the first text loses at its end is a row of separators: the first of them, or the
    -- one after it, ends the directory.
    obtain ⟨back, hback, hsplit⟩ := exists_dropEndSeparators_append cs
    have hcontinued : dropEndSeparators (cs ++ '/' :: rest) =
        cs ++ '/' :: Text.dropEndWhile (· == '/') rest := by
      rw [List.append_cons, dropEndSeparators_append_of_ne hrest, ← List.append_cons]
    cases back with
    | nil =>
      rw [List.append_nil] at hsplit
      rw [hcontinued, ← hsplit]
      exact ⟨_, rfl⟩
    | cons c back =>
      rw [(List.forall_mem_cons.1 hback).1] at hsplit
      refine ⟨back ++ '/' :: Text.dropEndWhile (· == '/') rest, ?_⟩
      calc dropEndSeparators (cs ++ '/' :: rest)
          = cs ++ '/' :: Text.dropEndWhile (· == '/') rest := hcontinued
        _ = dropEndSeparators cs ++ '/' :: back ++ '/' :: Text.dropEndWhile (· == '/') rest :=
            congrArg (· ++ _) hsplit
        _ = dropEndSeparators cs ++ '/' :: (back ++ '/' :: Text.dropEndWhile (· == '/') rest) :=
            List.append_assoc _ _ _

/-! ## Paths below a directory -/

/-- Whether a character separates the components of a path. -/
def isPathSeparator (c : Char) : Bool := c == '/' || c == '\\'

/-- The path `rest` below the directory `root`: a separator stands between them, unless the
directory ends in one. -/
def below (root rest : List Char) : List Char :=
  if root.getLast?.any isPathSeparator then root ++ rest else root ++ '/' :: rest

/-- A path that is not empty and does not begin at a file-system root. -/
def IsRelative (path : List Char) : Prop :=
  path ≠ [] ∧ ∀ c ∈ path.head?, isPathSeparator c = false

instance (path : List Char) : Decidable (IsRelative path) :=
  decidable_of_iff (path ≠ [] ∧ path.head?.all (!isPathSeparator ·) = true)
    (by simp [IsRelative, Option.all_eq_true])

/-- A path that is a single separator. -/
def IsLoneSeparator (path : List Char) : Prop := path = ['/'] ∨ path = ['\\']

instance (path : List Char) : Decidable (IsLoneSeparator path) :=
  inferInstanceAs (Decidable (path = ['/'] ∨ path = ['\\']))

theorem slash_of_isPathSeparator {c : Char} (h : isPathSeparator c = true) : slash c = '/' := by
  rw [isPathSeparator, Bool.or_eq_true, beq_iff_eq, beq_iff_eq] at h
  rcases h with rfl | rfl <;> rfl

theorem slash_ne_slash {c : Char} (h : isPathSeparator c = false) : slash c ≠ '/' := by
  rw [isPathSeparator, Bool.or_eq_false_iff, beq_eq_false_iff_ne, beq_eq_false_iff_ne] at h
  rw [slash, if_neg (by simpa using h.2)]
  exact h.1

theorem isSpace_of_isPathSeparator {c : Char} (h : isPathSeparator c = true) :
    Text.isSpace c = false := by
  rw [← isSpace_slash, slash_of_isPathSeparator h]
  decide

theorem isLoneSeparator_singleton {c : Char} (h : isPathSeparator c = true) :
    IsLoneSeparator [c] := by
  simpa [isPathSeparator, IsLoneSeparator] using h

/-- **Every directory has a stem**, after which one separator leads to what is below. -/
theorem exists_stem (root : List Char) : ∃ stem sep, isPathSeparator sep = true ∧
    (root = stem ∨ root = stem ++ [sep]) ∧ ∀ rest, below root rest = stem ++ sep :: rest := by
  by_cases h : root.getLast?.any isPathSeparator = true
  · obtain ⟨sep, hlast, hsep⟩ := (Option.any_eq_true ..).1 h
    obtain ⟨stem, rfl⟩ := List.getLast?_eq_some_iff.1 hlast
    refine ⟨stem, sep, hsep, .inr rfl, fun rest => ?_⟩
    rw [below, if_pos h, ← List.append_cons]
  · exact ⟨root, '/', rfl, .inl rfl, fun rest => if_neg h⟩

/-- **Below a directory that is no single separator everything is under it**, in the form for
comparison. -/
theorem liesUnder_normalChars_below {root : List Char} (htrim : Text.Trimmed root)
    (hne : root ≠ []) (hlone : ¬ IsLoneSeparator root) (rest : List Char) :
    liesUnder (normalChars root) (normalChars (below root rest)) = true := by
  obtain ⟨stem, sep, hsep, hroot, hbelow⟩ := exists_stem root
  have hstem : stem ≠ [] := by
    intro hnil
    rw [hnil] at hroot
    rcases hroot with h | h
    · exact hne h
    · exact hlone (h ▸ isLoneSeparator_singleton hsep)
  have hlower : Text.lowerChars (forwardSeparators stem) ≠ [] := by
    rw [ne_eq, Text.lowerChars_eq_nil_iff, forwardSeparators, List.map_eq_nil_iff]
    exact hstem
  have hfront : Text.Trimmed (stem ++ [sep]) := by
    refine ⟨?_, by simpa using isSpace_of_isPathSeparator hsep⟩
    rw [List.head?_append_of_ne_nil stem hstem]
    rcases hroot with h | h
    · exact h ▸ htrim.1
    · have hhead := htrim.1
      rwa [h, List.head?_append_of_ne_nil stem hstem] at hhead
  have hform : normalChars root =
      dropEndSeparators (Text.lowerChars (forwardSeparators stem)) := by
    rw [normalChars, htrim.trimChars_eq]
    rcases hroot with rfl | rfl
    · rfl
    · rw [forwardSeparators_append, forwardSeparators_cons, slash_of_isPathSeparator hsep,
        Text.lowerChars_append_slash]
      exact dropEndSeparators_append_of_forall (by simp [Text.lowerFrom, forwardSeparators]) hlower
  rw [hform, hbelow, List.append_cons, normalChars, hfront.trimChars_append (by simp),
    forwardSeparators_append, forwardSeparators_append, forwardSeparators_cons,
    slash_of_isPathSeparator hsep, List.append_assoc, List.cons_append,
    Text.lowerChars_append_slash]
  exact liesUnder_dropEndSeparators hlower _

/-- A single separator is its own form. -/
theorem normalChars_of_isLoneSeparator {root : List Char} (h : IsLoneSeparator root) :
    normalChars root = ['/'] := by
  rcases h with rfl | rfl <;> decide +kernel

/-- Below a single separator, the form is what follows in lower case, after one separator. -/
theorem normalChars_below_of_isLoneSeparator {root : List Char} (h : IsLoneSeparator root)
    (rest : List Char) : normalChars (below root rest) = dropEndSeparators
      ('/' :: Text.lowerFrom ['/'] (forwardSeparators (Text.trimEndChars rest))) := by
  have htrim : Text.Trimmed root := by
    rcases h with rfl | rfl <;> decide
  have hbelow : below root rest = root ++ rest := by
    rcases h with rfl | rfl <;> simp [below, isPathSeparator]
  have hforward : forwardSeparators root = [] ++ ['/'] := by
    rcases h with rfl | rfl <;> rfl
  have hne : root ≠ [] := by
    rcases h with rfl | rfl <;> exact List.cons_ne_nil _ _
  rw [hbelow, normalChars, htrim.trimChars_append hne, forwardSeparators_append, hforward,
    List.append_assoc, List.singleton_append, Text.lowerChars_append_slash]
  rfl

/-- **A single separator has only itself under it.** -/
theorem liesUnder_normalChars_below_of_isLoneSeparator {root rest : List Char}
    (hlone : IsLoneSeparator root) (hrest : IsRelative rest) :
    liesUnder (normalChars root) (normalChars (below root rest)) = true ↔
      ∀ c ∈ rest, Text.isSpace c = true := by
  rw [normalChars_of_isLoneSeparator hlone, normalChars_below_of_isLoneSeparator hlone]
  obtain ⟨tail, htail⟩ := List.rdropWhile_prefix Text.isSpace (l := rest)
  change Text.trimEndChars rest ++ tail = rest at htail
  rw [← Text.dropEndWhile_eq_nil_iff, ← Text.trimEndChars]
  cases hkept : Text.trimEndChars rest with
  | nil => simp [forwardSeparators, Text.lowerFrom, dropEndSeparators, Text.dropEndWhile, liesUnder]
  | cons c cs =>
    -- The first character of what is left is the first of the relative path.
    have hc : slash c ≠ '/' := by
      apply slash_ne_slash
      apply hrest.2
      rw [← htail, hkept]
      rfl
    obtain ⟨d, ds, hd, hlower⟩ := Text.exists_lowerFrom_eq_cons hc ['/'] (forwardSeparators cs)
    rw [forwardSeparators_cons, hlower, dropEndSeparators_slash_cons hd]
    simp [liesUnder, hd]

/-- A directory that is not blank has nothing blank below it. -/
theorem normalChars_below_ne_nil {root : List Char} (h : normalChars root ≠ [])
    (rest : List Char) : normalChars (below root rest) ≠ [] := by
  rw [ne_eq, normalChars_eq_nil_iff] at h ⊢
  intro hall
  apply h
  intro c hc
  apply hall
  unfold below
  split <;> exact List.mem_append_left _ hc

/-! ## Headers below a directory -/

/-- **A directory covers what is below it**, in every spelling, unless it is a single separator
and what is below is not blank. -/
theorem covers_below_iff {root : Path} (hblank : Text.isBlank root.text = false)
    (htrim : Text.Trimmed root.text.toList) {rest : List Char} (hrest : IsRelative rest)
    {header : String} (hheader : Respelled header.toList (below root.text.toList rest)) :
    Covers root (normalForm header) ↔
      (IsLoneSeparator root.text.toList → ∀ c ∈ rest, Text.isSpace c = true) := by
  rw [Covers, piecesAt_prefix_iff, toList_normalForm, toList_normalForm, hheader.normalChars_eq]
  by_cases hlone : IsLoneSeparator root.text.toList
  · rw [liesUnder_normalChars_below_of_isLoneSeparator hlone hrest]
    simp [hblank, hlone]
  · have hne : root.text.toList ≠ [] := by
      intro hnil
      simp [Text.isBlank, hnil] at hblank
    simp [hblank, hlone, liesUnder_normalChars_below htrim hne hlone rest]

/-- **Nothing below an excluded directory is ever recorded, unless the directory is a single
separator.** Whatever else is excluded and whatever headers a compiler names, a header below the
directory is left out in every spelling. Below a single separator, only white space is. -/
theorem never_recorded_below_iff {root : Path} (hblank : Text.isBlank root.text = false)
    (htrim : Text.Trimmed root.text.toList) {rest : List Char} (hrest : IsRelative rest)
    {header : String} (hheader : Respelled header.toList (below root.text.toList rest)) :
    (∀ roots : List Path, root ∈ roots → ∀ (object source : Path) (named : List String),
      normalForm header ∉ (record (.ofRoots roots) object source named).headers) ↔
        (IsLoneSeparator root.text.toList → ∀ c ∈ rest, Text.isSpace c = true) := by
  rw [← covers_below_iff hblank htrim hrest hheader]
  constructor
  · intro hnever
    by_contra hcovers
    have hroot : normalChars root.text.toList ≠ [] := by
      rw [ne_eq, normalChars_eq_nil_iff, ← List.all_eq_true, Bool.not_eq_true]
      exact hblank
    have hne : normalForm header ≠ "" := by
      rw [ne_eq, ← String.toList_inj, toList_normalForm, hheader.normalChars_eq]
      exact normalChars_below_ne_nil hroot rest
    apply hnever [root] (List.mem_singleton_self root) ⟨""⟩ ⟨""⟩ [header]
    rw [record, mem_recordedHeaders, ← Bool.not_eq_true, excludes_ofRoots_iff]
    exact ⟨⟨header, List.mem_singleton_self header, rfl⟩, hne, by simpa using hcovers⟩
  · intro hcovers roots hroot object source named
    rw [record, mem_recordedHeaders, ← Bool.not_eq_true, excludes_ofRoots_iff]
    exact fun hkept => hkept.2.2 ⟨root, hroot, hcovers⟩

theorem never_recorded_below_studio :
    Text.Trimmed "C:\\VS\\".toList ∧ IsRelative "Include/x.h".toList ∧
    ∀ roots : List Path, ⟨"C:\\VS\\"⟩ ∈ roots → ∀ (object source : Path) (named : List String),
      "c:/vs/include/x.h" ∉ (record (.ofRoots roots) object source named).headers := by
  have htrim : Text.Trimmed "C:\\VS\\".toList := by decide
  have hrest : IsRelative "Include/x.h".toList := by decide
  have hform : normalForm "c:/VS\\include\\X.h" = "c:/vs/include/x.h" := by decide +kernel
  rw [← hform]
  refine ⟨htrim, hrest, (never_recorded_below_iff (by decide) htrim hrest (by decide)).2 ?_⟩
  exact fun hlone => absurd hlone (by decide)

/-- A header below the root of the file system is recorded although that is excluded. -/
theorem recorded_below_slash :
    Text.isBlank "/" = false ∧ Text.Trimmed "/".toList ∧ IsRelative "x.h".toList ∧
    Respelled "/x.h".toList (below "/".toList "x.h".toList) ∧
    normalForm "/x.h" ∈ (record (.ofRoots [⟨"/"⟩]) ⟨"a.obj"⟩ ⟨"a.cpp"⟩ ["/x.h"]).headers := by
  exact ⟨by decide, by decide, by decide, by decide, by decide +kernel⟩

end Clinker.Dependency

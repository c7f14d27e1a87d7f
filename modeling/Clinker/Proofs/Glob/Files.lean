import Clinker.Proofs.Glob.Finding
import Clinker.Proofs.Path.Order

/-!
# What a list of patterns finds

If all of its texts are patterns, a list of patterns finds files in strict order, the same ones
for every order and number of the patterns (`files_finds`). A pattern without wildcards names one
file, and if this file is there it is among those found. But the directory that the patterns are
relative to is written in front of them as it is, and becomes part of the pattern. Only where it
has no wildcard does it leave patterns what they are (`isSome_ofText?_join`) and literal ones
literal (`literal_join`); otherwise a file may be missed (`files_bracketedFolder`).
-/

namespace Clinker.Glob

variable {fs : FileSystem} {base p : Path} {text : String} {patterns : List String}

/-! ## Each path once -/

theorem dropRepeats_subset (l : List Path) : dropRepeats l ⊆ l := by
  fun_induction dropRepeats l with
  | case1 => exact List.Subset.refl _
  | case2 p ps hnil ih => simp
  | case3 p ps q qs hcons hsame ih =>
    rw [hcons] at ih
    exact List.cons_subset_cons p fun r hr => ih (List.mem_cons_of_mem _ hr)
  | case4 p ps q qs hcons hdiffer ih =>
    rw [hcons] at ih
    exact List.cons_subset_cons p ih

/-- **Dropping repeats keeps every path**, up to how it is written. -/
theorem mem_map_dropRepeats {l : List Path} {cs : List Component} :
    cs ∈ (dropRepeats l).map Path.components ↔ cs ∈ l.map Path.components := by
  fun_induction dropRepeats l with
  | case1 => exact Iff.rfl
  | case2 p ps hnil ih =>
    rw [List.map_cons, List.map_cons, List.mem_cons, List.mem_cons, ← ih, hnil]
  | case3 p ps q qs hcons hsame ih =>
    rw [hcons, List.map_cons, List.mem_cons, ← eq_of_beq hsame] at ih
    rw [List.map_cons, List.map_cons, List.mem_cons, List.mem_cons, ← ih, ← or_assoc, or_self]
  | case4 p ps q qs hcons hdiffer ih =>
    rw [List.map_cons, List.mem_cons, ← hcons, ih, ← List.mem_cons, ← List.map_cons]

/-- **What is left of a sorted list is in strict order.** -/
theorem pairwise_dropRepeats {l : List Path} (h : l.Pairwise fun p q => p.le q = true) :
    (dropRepeats l).Pairwise Path.Before := by
  fun_induction dropRepeats l with
  | case1 => exact List.Pairwise.nil
  | case2 p ps hnil ih => exact List.pairwise_singleton _ _
  | case3 p ps q qs hcons hsame ih =>
    obtain ⟨hp, hps⟩ := List.pairwise_cons.1 h
    have hrest := ih hps
    rw [hcons] at hrest
    obtain ⟨hq, hqs⟩ := List.pairwise_cons.1 hrest
    refine List.pairwise_cons.2 ⟨fun r hr => ⟨?_, ?_⟩, hqs⟩
    · exact hp r (dropRepeats_subset ps (hcons ▸ List.mem_cons_of_mem q hr))
    · rw [Path.same, eq_of_beq hsame]
      exact (hq r hr).2
  | case4 p ps q qs hcons hdiffer ih =>
    obtain ⟨hp, hps⟩ := List.pairwise_cons.1 h
    have hrest := ih hps
    rw [hcons] at hrest
    refine List.pairwise_cons.2 ⟨fun r hr => ?_, hrest⟩
    have hpr := hp r (dropRepeats_subset ps (hcons ▸ hr))
    refine ⟨hpr, ?_⟩
    obtain rfl | hr := List.mem_cons.1 hr
    · exact Bool.eq_false_iff.2 hdiffer
    · -- A path that is the same as `p` would be the same as `q`, which is in between.
      have hpq := hp q (dropRepeats_subset ps (hcons ▸ List.mem_cons_self))
      have hqr := (List.pairwise_cons.1 hrest).1 r hr
      rw [Path.same, beq_eq_false_iff_ne]
      intro heq
      have hrp : q.le p = true := by
        rw [Path.le, heq]
        exact hqr.1
      exact hdiffer (beq_iff_eq.2 (Path.components_eq_of_le hpq hrp))

/-! ## Patterns below a directory -/

/-- What one of the patterns finds, if it is a pattern. -/
def search (fs : FileSystem) (base : Path) (text : String) : Except BadPattern (List Path) :=
  match Pattern.ofText? (base.join ⟨text⟩).text with
  | none => .error ⟨text⟩
  | some pattern => .ok (filesMatching fs pattern)

/-- The files that one of the patterns finds. -/
def matched (fs : FileSystem) (base : Path) (text : String) : List Path :=
  (Pattern.ofText? (base.join ⟨text⟩).text).elim [] (filesMatching fs)

/-- The files that patterns find, sorted, each once. -/
def listed (fs : FileSystem) (base : Path) (patterns : List String) : List Path :=
  dropRepeats ((patterns.flatMap (matched fs base)).mergeSort Path.le)

theorem isFile_of_mem_matched (h : p ∈ matched fs base text) : fs.isFile p = true := by
  rw [matched] at h
  cases hpattern : Pattern.ofText? (base.join ⟨text⟩).text with
  | none =>
    rw [hpattern] at h
    cases h
  | some pattern =>
    rw [hpattern, Option.elim_some, filesMatching] at h
    split at h
    · cases h
    · exact (List.mem_filter.1 h).2

/-- **A pattern finds its files**, and only a pattern does. -/
theorem search_eq_ok_iff {found : List Path} : search fs base text = .ok found ↔
    (Pattern.ofText? (base.join ⟨text⟩).text).isSome = true ∧ found = matched fs base text := by
  rw [search, matched]
  cases Pattern.ofText? (base.join ⟨text⟩).text with
  | none => simp
  | some pattern => simp [eq_comm]

/-- **When files are listed, and which**: all of the texts have to be patterns. -/
theorem files_eq_ok_iff {found : List Path} : files fs base patterns = .ok found ↔
    (∀ text ∈ patterns, (Pattern.ofText? (base.join ⟨text⟩).text).isSome = true) ∧
      found = listed fs base patterns := by
  have hfiles : files fs base patterns = (patterns.mapM (search fs base) >>= fun lists =>
      pure (dropRepeats (lists.flatten.mergeSort Path.le))) := rfl
  have hlisted : (∀ text ∈ patterns, (Pattern.ofText? (base.join ⟨text⟩).text).isSome = true) →
      files fs base patterns = .ok (listed fs base patterns) := by
    intro hpatterns
    have hsearch : ∀ text ∈ patterns, search fs base text = pure (matched fs base text) :=
      fun text htext => search_eq_ok_iff.2 ⟨hpatterns text htext, rfl⟩
    rw [hfiles, mapM_eq_pure hsearch, pure_bind, listed, List.flatMap_def]
    rfl
  constructor
  · intro h
    have hpatterns : ∀ text ∈ patterns,
        (Pattern.ofText? (base.join ⟨text⟩).text).isSome = true := by
      intro text htext
      cases hlists : patterns.mapM (search fs base) with
      | error e =>
        rw [hfiles, hlists] at h
        cases h
      | ok lists =>
        obtain ⟨found', hfound⟩ := exists_of_mapM_eq_ok hlists text htext
        exact (search_eq_ok_iff.1 hfound).1
    exact ⟨hpatterns, Except.ok.inj (h.symm.trans (hlisted hpatterns))⟩
  · rintro ⟨hpatterns, rfl⟩
    exact hlisted hpatterns

theorem pairwise_listed (fs : FileSystem) (base : Path) (patterns : List String) :
    (listed fs base patterns).Pairwise Path.Before :=
  pairwise_dropRepeats (List.pairwise_mergeSort Path.le_trans Path.le_total _)

theorem isFile_of_mem_listed (h : p ∈ listed fs base patterns) : fs.isFile p = true := by
  have hsorted := List.mem_mergeSort.1 (dropRepeats_subset _ h)
  obtain ⟨text, -, hp⟩ := List.mem_flatMap.1 hsorted
  exact isFile_of_mem_matched hp

/-- **Which paths are listed**, up to how they are written: those that some pattern finds. -/
theorem mem_map_listed {cs : List Component} : cs ∈ (listed fs base patterns).map Path.components ↔
    ∃ text ∈ patterns, ∃ p ∈ matched fs base text, p.components = cs := by
  rw [listed, mem_map_dropRepeats, List.mem_map]
  simp only [List.mem_mergeSort, List.mem_flatMap]
  constructor
  · rintro ⟨p, ⟨text, htext, hp⟩, hcs⟩
    exact ⟨text, htext, p, hp, hcs⟩
  · rintro ⟨text, htext, p, hp, hcs⟩
    exact ⟨p, ⟨text, htext, hp⟩, hcs⟩

/-- **The order of the patterns, and their number, do not matter.** -/
theorem map_components_listed {patterns' : List String}
    (h : ∀ text, text ∈ patterns' ↔ text ∈ patterns) :
    (listed fs base patterns').map Path.components =
      (listed fs base patterns).map Path.components := by
  refine Path.map_components_eq (pairwise_listed fs base patterns')
    (pairwise_listed fs base patterns) fun cs => ?_
  simp only [mem_map_listed, h]

/-! ## Below a literal base -/

theorem literal_opening (h : Literal p.text.toList) : Literal p.opening := by
  unfold Path.opening
  split
  · exact h
  · exact literal_append.2 ⟨h, by decide⟩

/-- **A literal base leaves patterns what they are.** -/
theorem isSome_ofText?_join (hbase : (⟨text⟩ : Path).isAbsolute = true ∨ Literal base.text.toList)
    (h : (Pattern.ofText? text).isSome = true) :
    (Pattern.ofText? (base.join ⟨text⟩).text).isSome = true := by
  cases hrelative : (⟨text⟩ : Path).isAbsolute with
  | true => rwa [Path.join, hrelative, if_pos rfl]
  | false =>
    have hliteral := hbase.resolve_left (Bool.eq_false_iff.1 hrelative)
    have hjoin : (base.join ⟨text⟩).text.toList = base.opening ++ text.toList :=
      Path.toList_join_of_relative hrelative
    cases hempty : base.isEmpty with
    | true =>
      have htext : (base.join ⟨text⟩).text = text := by
        apply String.toList_injective
        rw [hjoin, Path.opening, hempty, Bool.true_or, if_pos rfl, String.isEmpty_iff.1 hempty]
        rfl
      rwa [htext]
    | false =>
      obtain ⟨before, hopening, -⟩ := Path.exists_opening hempty
      have hbefore : Literal before :=
        (literal_append.1 (hopening ▸ literal_opening hliteral)).1
      refine isSome_ofText?_append hbefore ?_ h
      rw [hjoin, hopening, List.append_assoc, List.singleton_append]

/-- A literal text below a literal base is a literal text. -/
theorem literal_join (hbase : (⟨text⟩ : Path).isAbsolute = true ∨ Literal base.text.toList)
    (htext : Literal text.toList) : Literal (base.join ⟨text⟩).text.toList := by
  cases hrelative : (⟨text⟩ : Path).isAbsolute with
  | true => rwa [Path.join, hrelative, if_pos rfl]
  | false =>
    rw [Path.toList_join_of_relative hrelative]
    have hliteral := hbase.resolve_left (Bool.eq_false_iff.1 hrelative)
    exact literal_append.2 ⟨literal_opening hliteral, htext⟩

/-! ## What is found -/

/-- What a search is to find: files in strict order, and among them every file that a pattern names
without a wildcard, where the base has no wildcard or does not matter. -/
structure Finds (fs : FileSystem) (base : Path) (patterns : List String) (found : List Path) :
    Prop where
  ascending : found.Pairwise Path.Before
  regular : ∀ p ∈ found, fs.isFile p = true
  named : ∀ text ∈ patterns, Literal text.toList →
    (⟨text⟩ : Path).isAbsolute = true ∨ Literal base.text.toList →
    gapAfterDots (base.join ⟨text⟩).text.toList = false → fs.isFile (base.join ⟨text⟩) = true →
    ∃ p ∈ found, fs.locate p = fs.locate (base.join ⟨text⟩)

theorem finds_listed (fs : FileSystem) (base : Path) (patterns : List String) :
    Finds fs base patterns (listed fs base patterns) where
  ascending := pairwise_listed fs base patterns
  regular _ := isFile_of_mem_listed
  named := by
    intro text htext hliteral hbase hgap hfile
    obtain ⟨pattern, q, hpattern, hq, hqFile, hqLoc⟩ :=
      filesMatching_literal (literal_join hbase hliteral) hgap hfile
    have hmatched : q ∈ matched fs base text := by
      rw [matched, hpattern, Option.elim_some, hq]
      exact List.mem_singleton_self q
    obtain ⟨p, hp, hsame⟩ :=
      List.mem_map.1 (mem_map_listed.2 ⟨text, htext, q, hmatched, rfl⟩)
    refine ⟨p, hp, ?_⟩
    obtain ⟨-, loc, -, -, hpLoc, -⟩ := FileSystem.isFile_iff.1 (isFile_of_mem_listed hp)
    obtain ⟨-, loc', -, -, hqLoc', -⟩ := FileSystem.isFile_iff.1 hqFile
    rw [← hqLoc, hpLoc, hqLoc', FileSystem.locate_eq_of_same (beq_iff_eq.2 hsame) hpLoc hqLoc']

/-- **What a list of patterns finds.** Below a base without wildcards, or if the base does not
matter, patterns always find a list of files. Whatever the base, a list that is found is as it is
to be, and is the same, component by component, for all lists of the same patterns. -/
theorem files_finds (fs : FileSystem) (base : Path)
    (hvalid : ∀ text ∈ patterns, (Pattern.ofText? text).isSome = true) :
    ((∀ text ∈ patterns, (⟨text⟩ : Path).isAbsolute = true ∨ Literal base.text.toList) →
      ∃ found, files fs base patterns = .ok found) ∧
    ∀ found, files fs base patterns = .ok found → Finds fs base patterns found ∧
      ∀ patterns' : List String, (∀ text, text ∈ patterns' ↔ text ∈ patterns) →
        ∃ found', files fs base patterns' = .ok found' ∧
          found'.map Path.components = found.map Path.components := by
  constructor
  · intro hbase
    refine ⟨_, files_eq_ok_iff.2 ⟨fun text htext => ?_, rfl⟩⟩
    exact isSome_ofText?_join (hbase text htext) (hvalid text htext)
  · intro found h
    obtain ⟨hpatterns, rfl⟩ := files_eq_ok_iff.1 h
    refine ⟨finds_listed fs base patterns, fun patterns' hsame => ?_⟩
    have hpatterns' : ∀ text ∈ patterns', (Pattern.ofText? (base.join ⟨text⟩).text).isSome = true :=
      fun text htext => hpatterns text ((hsame text).1 htext)
    exact ⟨_, files_eq_ok_iff.2 ⟨hpatterns', rfl⟩, map_components_listed hsame⟩

/-- Two sources in a folder. -/
def sourceFolder : FileSystem :=
  ⟨[(["src"], .directory), (["src", "b.cpp"], .file ByteArray.empty false),
    (["src", "a.cpp"], .file ByteArray.empty false)], []⟩

theorem files_finds_sourceFolder :
    (∀ text ∈ ["*.cpp", "a.cpp"], (Pattern.ofText? text).isSome = true) ∧
    ∃ found, files sourceFolder ⟨"./src"⟩ ["*.cpp", "a.cpp"] = .ok found ∧
      Finds sourceFolder ⟨"./src"⟩ ["*.cpp", "a.cpp"] found ∧
      ∃ p ∈ found, sourceFolder.locate p = .ok ["src", "a.cpp"] := by
  have hvalid : ∀ text ∈ ["*.cpp", "a.cpp"], (Pattern.ofText? text).isSome = true := by
    decide +kernel
  obtain ⟨hok, hfinds⟩ := files_finds sourceFolder ⟨"./src"⟩ hvalid
  obtain ⟨found, hfound⟩ := hok (by decide)
  have hall := (hfinds found hfound).1
  obtain ⟨p, hp, hlocate⟩ :=
    hall.named "a.cpp" (by decide) (by decide) (.inr (by decide)) (by decide) (by decide +kernel)
  exact ⟨hvalid, found, hfound, hall, p, hp, hlocate.trans rfl⟩

/-- A source in a folder whose name has a wildcard in it. -/
def bracketedFolder : FileSystem :=
  ⟨[(["p[1]"], .directory), (["p[1]", "a.cpp"], .file ByteArray.empty false)], []⟩

/-- The name of the folder is read as a pattern, and this pattern is not for the folder. -/
theorem files_bracketedFolder :
    (Pattern.ofText? "a.cpp").isSome = true ∧ Literal "a.cpp".toList ∧
    bracketedFolder.isFile (Path.join ⟨"p[1]"⟩ ⟨"a.cpp"⟩) = true ∧
    files bracketedFolder ⟨"p[1]"⟩ ["a.cpp"] = .ok [] := by
  refine ⟨by decide +kernel, by decide, by decide +kernel, ?_⟩
  exact files_eq_ok_iff.2 ⟨by decide +kernel, by decide +kernel⟩

end Clinker.Glob

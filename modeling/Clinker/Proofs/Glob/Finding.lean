import Clinker.Glob.Search
import Clinker.Proofs.FileSystem.Spelling
import Clinker.Proofs.Glob.Literal

/-!
# Finding a file by its name

A literal pattern is followed as the path that it spells. What has been written of a path to a
file is a directory whenever more is to come, so no component is missed on the way
(`findsFile_names`). The search does not write the path as it stands in the pattern: a `.` in front
is dropped (`findsFile_here`), and so are separators that repeat. The file is the same
(`filesMatching_literal`).

One pattern is lost. After a `.` in front, a second separator makes an empty name below the
working directory, which leads nowhere: `.//a` finds nothing (`filesMatching_of_gapAfterDots`).
-/

namespace Clinker.Glob

open FileSystem
open Clinker.Path (front opening stepsOf)

variable {fs : FileSystem} {p next full : Path}

/-- A search from `p` finds one path, and it names the same file as `full`. -/
def FindsFile (fs : FileSystem) (ps : List Piece) (p full : Path) : Prop :=
  ∃ q, find fs ps p = [q] ∧ fs.isFile q = true ∧ fs.locate q = fs.locate full

/-- **One name is followed** from a directory to what exists below it. -/
theorem FindsFile.cons {s : String} {ps : List Piece} (h : FindsFile fs ps next full)
    (hdir : fs.isDirectory p = true) (hnext : below p s = next)
    (hexists : fs.pathExists next = true) : FindsFile fs (.exact s :: ps) p full := by
  obtain ⟨q, hq, hqFile, hqLoc⟩ := h
  refine ⟨q, ?_, hqFile, hqLoc⟩
  rw [find, hnext, hdir, hexists, if_pos rfl, ite_self, hq]

theorem FindsFile.nil (h : fs.isFile full = true) : FindsFile fs [] full full := ⟨full, rfl, h, rfl⟩

theorem FindsFile.of_locate {ps : List Piece} {file : Path} (h : FindsFile fs ps p file)
    (hfile : fs.locate file = fs.locate full) : FindsFile fs ps p full := by
  obtain ⟨q, hq, hqFile, hqLoc⟩ := h
  exact ⟨q, hq, hqFile, hqLoc.trans hfile⟩

/-! ## Below a path -/

/-- Only a path with a `.` in front is written as the working directory. -/
theorem isHere_of_front (h : front p.text.toList ≠ ['.']) : isHere p = false := by
  have hhere : (⟨"."⟩ : Path).components = [.here] := by decide
  rw [isHere, Path.same, beq_eq_false_iff_ne, hhere, Path.components_eq]
  intro heq
  obtain ⟨hfront, -⟩ | ⟨hfront | hfront, -⟩ := p.front_cases
  · rw [hfront] at heq
    cases (List.cons.inj heq).1
  · exact h hfront
  · simp only [hfront, Path.frontComponents, List.nil_append] at heq
    have hmem : Component.here ∈ Path.componentsOf (Path.body p.text.toList) := by
      rw [heq]
      exact List.mem_singleton_self _
    obtain ⟨step, -, hstep⟩ := List.mem_map.1 hmem
    unfold Path.componentOf at hstep
    split at hstep <;> cases hstep

theorem front_opening_append (hp : p.isEmpty = false) (cs : List Char) :
    front (p.opening ++ cs) = front p.text.toList := by
  obtain ⟨before, hopening, -⟩ := Path.exists_opening hp
  rw [← (Path.components_opening p).1, hopening, List.append_assoc, List.singleton_append,
    Path.front_append]

theorem toList_below {name : List Char} (hfront : front p.text.toList ≠ ['.'])
    (hname : '/' ∉ name) :
    (below p (String.ofList name)).text.toList = p.opening ++ name := by
  have hrelative : (⟨String.ofList name⟩ : Path).isAbsolute = false := by
    rw [Path.isAbsolute, String.toList_ofList, beq_eq_false_iff_ne]
    exact fun hhead => hname (List.mem_of_head? hhead)
  rw [below, isHere_of_front hfront, if_neg Bool.false_ne_true,
    Path.toList_join_of_relative hrelative, String.toList_ofList]

/-- **One name further**, the rest of the pattern leads to the same file. If the name is empty, the
separator after it is a second one, which the search does not write. -/
theorem exists_file_below {name rest : List Char} (hp : p.isEmpty = false)
    (hnext : next.text.toList = p.opening ++ name) (hnextNe : next.isEmpty = false)
    (hname : '/' ∉ name) (htext : full.text.toList = p.opening ++ (name ++ '/' :: rest))
    (h : fs.isFile full = true) : ∃ file : Path, file.text.toList = next.opening ++ rest ∧
      fs.isFile file = true ∧ fs.locate file = fs.locate full := by
  by_cases hempty : name = []
  · obtain ⟨before, hopening, -⟩ := Path.exists_opening hp
    rw [hempty, List.append_nil] at hnext
    have hend : next.endsInSeparator = true := by
      simp [Path.endsInSeparator, hnext, hopening]
    rw [Path.opening_of_endsInSeparator hend, hnext]
    rw [hempty, List.nil_append] at htext
    refine ⟨⟨String.ofList (p.opening ++ rest)⟩, String.toList_ofList, ?_⟩
    exact isFile_of_second_separator hp htext String.toList_ofList h
  · have hend : next.endsInSeparator = false := by
      rw [Path.endsInSeparator, hnext, List.getLast?_append_of_ne_nil _ hempty,
        beq_eq_false_iff_ne]
      exact fun hlast => hname (List.mem_of_getLast? hlast)
    refine ⟨full, ?_, h, rfl⟩
    rw [htext, Path.opening_of_not_endsInSeparator hnextNe hend, hnext]
    simp only [List.append_assoc, List.singleton_append]

/-- **A file below a directory is found by the names that lead to it.** The induction is on the
names that are still to be followed from `p`. -/
theorem findsFile_names {p full : Path} {cs : List Char} (hp : p.isEmpty = false)
    (hfront : front p.text.toList ≠ ['.']) (htext : full.text.toList = p.opening ++ cs)
    (h : fs.isFile full = true) : FindsFile fs ((namesIn cs).map .exact) p full := by
  have hdir := isDirectory_of_opening hp htext h
  by_cases hmem : '/' ∈ cs
  · obtain ⟨name, rest, hcs, hname⟩ := List.eq_append_cons_of_mem hmem
    have hnext := toList_below hfront hname
    generalize hbelow : below p (String.ofList name) = next at hnext
    have hnextNe : next.isEmpty = false := by
      obtain ⟨before, hopening, -⟩ := Path.exists_opening hp
      have hne : next.text.toList ≠ [] := by simp [hnext, hopening]
      simpa [Path.isEmpty] using hne
    have hnextFront : front next.text.toList ≠ ['.'] := by
      rwa [hnext, front_opening_append hp]
    rw [hcs] at htext
    obtain ⟨file, hfile, hisFile, hlocate⟩ := exists_file_below hp hnext hnextNe hname htext h
    have hrest := findsFile_names hnextNe hnextFront hfile hisFile
    rw [hcs, namesIn_append_cons hname, List.map_cons]
    exact (hrest.of_locate hlocate).cons hdir hbelow
      (pathExists_of_isDirectory (isDirectory_of_opening hnextNe hfile hisFile))
  · have hfull : below p (String.ofList cs) = full :=
      Path.eq_of_toList_eq ((toList_below hfront hmem).trans htext.symm)
    rw [namesIn_of_not_mem hmem, List.map_singleton]
    exact (FindsFile.nil h).cons hdir hfull (pathExists_of_isFile h)
termination_by cs.length
decreasing_by simp only [hcs, List.length_append, List.length_cons]; omega

/-! ## From the working directory -/

/-- After one `.` or more, each with its separator, there is a second separator. -/
def gapAfterDots : List Char → Bool
  | '.' :: '/' :: '/' :: _ => true
  | '.' :: '/' :: cs => gapAfterDots cs
  | _ => false

theorem gapAfterDots_dot {cs : List Char} (h : gapAfterDots ('.' :: '/' :: cs) = false) :
    cs.head? ≠ some '/' ∧ gapAfterDots cs = false := by
  unfold gapAfterDots at h
  split at h
  · cases h
  · next hsep heq =>
    cases heq
    refine ⟨fun hhead => ?_, h⟩
    obtain ⟨tail, htail⟩ := List.head?_eq_some_iff.1 hhead
    exact hsep tail htail
  · next hdot => exact absurd rfl (hdot cs)

theorem below_here (name : String) : below ⟨"."⟩ name = ⟨name⟩ := by
  rw [below, show isHere ⟨"."⟩ = true by decide, if_pos rfl]

/-- A file below a name in the working directory is found by the name and what follows it. -/
theorem findsFile_below_here {name rest : List Char} (hne : name ≠ []) (hdot : name ≠ ['.'])
    (hname : '/' ∉ name) (hdir : fs.isDirectory ⟨"."⟩ = true)
    (htext : full.text.toList = name ++ '/' :: rest) (h : fs.isFile full = true) :
    FindsFile fs (.exact (String.ofList name) :: (namesIn rest).map .exact) ⟨"."⟩ full := by
  generalize hnextPath : (⟨String.ofList name⟩ : Path) = next
  have hnext : next.text.toList = name := by rw [← hnextPath, String.toList_ofList]
  have hnextNe : next.isEmpty = false := by simpa [Path.isEmpty, ← hnextPath] using hne
  have hnextFront : front next.text.toList ≠ ['.'] := by
    rw [hnext]
    unfold front
    split <;> simp_all
  have hend : next.endsInSeparator = false := by
    rw [Path.endsInSeparator, hnext, beq_eq_false_iff_ne]
    exact fun hlast => hname (List.mem_of_getLast? hlast)
  have hfull : full.text.toList = next.opening ++ rest := by
    rw [htext, Path.opening_of_not_endsInSeparator hnextNe hend, hnext, List.append_assoc,
      List.singleton_append]
  exact (findsFile_names hnextNe hnextFront hfull h).cons hdir ((below_here _).trans hnextPath)
    (pathExists_of_isDirectory (isDirectory_of_opening hnextNe hfull h))

/-- **A file that a relative path names is found** from the working directory. The induction is on
the `.` in front, of which the path that is found has none. -/
theorem findsFile_here {full : Path} (hrelative : full.isAbsolute = false)
    (hgap : gapAfterDots full.text.toList = false) (h : fs.isFile full = true) :
    FindsFile fs ((namesIn full.text.toList).map .exact) ⟨"."⟩ full := by
  have hdir := isDirectory_here hrelative h
  by_cases hmem : '/' ∈ full.text.toList
  · obtain ⟨name, rest, htext, hname⟩ := List.eq_append_cons_of_mem hmem
    rw [htext, namesIn_append_cons hname, List.map_cons]
    by_cases hdot : name = ['.']
    · subst hdot
      obtain ⟨hsep, hrestGap⟩ := gapAfterDots_dot (htext ▸ hgap)
      have hrest : (⟨String.ofList rest⟩ : Path).isAbsolute = false := by
        rw [Path.isAbsolute, String.toList_ofList]
        exact beq_eq_false_iff_ne.2 hsep
      obtain ⟨hfile, hlocate⟩ := isFile_of_dot htext String.toList_ofList hrest h
      have hfinds := findsFile_here hrest (by rwa [String.toList_ofList]) hfile
      rw [String.toList_ofList] at hfinds
      exact (hfinds.of_locate hlocate).cons hdir (below_here _) (pathExists_of_isDirectory hdir)
    · have hne : name ≠ [] := by
        rintro rfl
        simp [Path.isAbsolute, htext] at hrelative
      exact findsFile_below_here hne hdot hname hdir htext h
  · rw [namesIn_of_not_mem hmem, String.ofList_toList, List.map_singleton]
    exact (FindsFile.nil h).cons hdir (below_here _) (pathExists_of_isFile h)
termination_by full.text.toList.length
decreasing_by
  simp only [htext, String.toList_ofList, List.length_append, List.length_cons]
  omega

/-! ## Literal patterns -/

theorem belowRoot_of_relative (h : p.isAbsolute = false) :
    belowRoot p.text.toList = p.text.toList := by
  rw [belowRoot, ← Path.isAbsolute, h, if_neg Bool.false_ne_true]

/-- **A literal pattern finds the file that it names**, and nothing else. -/
theorem filesMatching_literal (hliteral : Literal full.text.toList)
    (hgap : gapAfterDots full.text.toList = false) (h : fs.isFile full = true) :
    ∃ pattern q, Pattern.ofText? full.text = some pattern ∧
      filesMatching fs pattern = [q] ∧ fs.isFile q = true ∧ fs.locate q = fs.locate full := by
  have hend : full.text.toList.getLast? ≠ some '/' := beq_eq_false_iff_ne.1 (isFile_iff.1 h).1
  have hpattern := ofText?_literal hliteral hend
  rw [← Path.isAbsolute] at hpattern
  have hfinds : FindsFile fs ((namesIn (belowRoot full.text.toList)).map .exact)
      ⟨if full.isAbsolute then "/" else "."⟩ full := by
    cases habsolute : full.isAbsolute with
    | false =>
      rw [belowRoot_of_relative habsolute]
      exact findsFile_here habsolute hgap h
    | true =>
      obtain ⟨cs, hcs⟩ := List.head?_eq_some_iff.1 (eq_of_beq habsolute)
      have hroot : full.text.toList = (⟨"/"⟩ : Path).opening ++ cs := hcs
      rw [belowRoot, ← Path.isAbsolute, habsolute, if_pos rfl, hcs, List.drop_one, List.tail_cons]
      exact findsFile_names (by decide) (by decide) hroot h
  obtain ⟨q, hq, hqFile, hqLoc⟩ := hfinds
  refine ⟨_, q, hpattern, ?_, hqFile, hqLoc⟩
  rw [filesMatching, if_neg Bool.false_ne_true, hq, List.filter_cons_of_pos hqFile, List.filter_nil]

/-! What is found of a pattern with a second separator after the `.` in front: nothing. -/

theorem find_here_dot (fs : FileSystem) (cs : List Char) :
    find fs ((namesIn ('.' :: '/' :: cs)).map .exact) ⟨"."⟩ =
      if fs.isDirectory ⟨"."⟩ then find fs ((namesIn cs).map .exact) ⟨"."⟩ else [] := by
  have hnames : namesIn ('.' :: '/' :: cs) = "." :: namesIn cs :=
    namesIn_append_cons (by decide : '/' ∉ ['.']) cs
  rw [hnames, List.map_cons, find, below_here]
  rfl

theorem find_here_empty (fs : FileSystem) (ps : List Piece) :
    find fs (.exact "" :: ps) ⟨"."⟩ = [] := by
  have hnone : fs.pathExists ⟨""⟩ = false := rfl
  rw [find, below_here, hnone]
  rfl

theorem find_of_gapAfterDots (fs : FileSystem) {cs : List Char} (h : gapAfterDots cs = true) :
    find fs ((namesIn cs).map .exact) ⟨"."⟩ = [] := by
  fun_induction gapAfterDots cs with
  | case1 cs =>
    have hnames : namesIn ('/' :: cs) = "" :: namesIn cs :=
      namesIn_append_cons (List.not_mem_nil : '/' ∉ []) cs
    rw [find_here_dot, hnames, List.map_cons, find_here_empty, ite_self]
  | case2 cs hsep ih => rw [find_here_dot, ih h, ite_self]
  | case3 cs => cases h

/-- **A second separator after the `.` in front is one too many**, whatever is there. -/
theorem filesMatching_of_gapAfterDots (fs : FileSystem) {pattern : Pattern}
    (hliteral : Literal full.text.toList) (hgap : gapAfterDots full.text.toList = true)
    (hpattern : Pattern.ofText? full.text = some pattern) : filesMatching fs pattern = [] := by
  cases hend : full.endsInSeparator with
  | true =>
    rw [filesMatching, wantsDirectory_of_ofText? hpattern, ← Path.endsInSeparator, hend, if_pos rfl]
  | false =>
    have hrelative : full.isAbsolute = false := by
      unfold gapAfterDots at hgap
      split at hgap <;> simp_all [Path.isAbsolute]
    have hnames := ofText?_literal hliteral (beq_eq_false_iff_ne.1 hend)
    rw [hpattern, ← Path.isAbsolute, hrelative, belowRoot_of_relative hrelative] at hnames
    cases hnames
    simp [filesMatching, find_of_gapAfterDots fs hgap]

end Clinker.Glob

import Clinker.Proofs.FileSystem.Places

/-!
# One file under several names

A path to a file leads through directories only, as far as it is written in front of a separator
(`isDirectory_of_opening`). A second separator says nothing, and neither does a `.` in front
(`isFile_of_second_separator`, `isFile_of_dot`): without them the path names the same file.
-/

namespace Clinker.FileSystem

open Clinker.Path (opening stepsOf)

variable {fs : FileSystem} {p full short : Path}

/-! ## On the way to a file -/

/-- A file is named by what is written last. -/
theorem stepsOf_ne_nil_of_isFile {before cs : List Char}
    (htext : full.text.toList = before ++ '/' :: cs) (h : fs.isFile full = true) :
    stepsOf cs ≠ [] := by
  have hend : full.text.toList.getLast? ≠ some '/' :=
    beq_eq_false_iff_ne.1 (isFile_iff.1 h).1
  obtain rfl | ⟨names, c, hcs⟩ := List.eq_nil_or_concat cs
  · rw [htext] at hend
    exact absurd List.getLast?_concat hend
  · rw [List.concat_eq_append] at hcs
    rw [htext, hcs, ← List.cons_append, ← List.append_assoc, List.getLast?_concat] at hend
    exact Path.stepsOf_ne_nil (by simp [hcs]) fun hc => hend (congrArg some hc)

/-- **A path leads through what is written in front of a separator.** -/
theorem isDirectory_of_opening {cs : List Char} (hp : p.isEmpty = false)
    (htext : full.text.toList = p.opening ++ cs) (h : fs.isFile full = true) :
    fs.isDirectory p = true := by
  obtain ⟨-, loc, -, -, hloc, -⟩ := isFile_iff.1 h
  obtain ⟨before, hopening, hbefore⟩ := Path.exists_opening hp
  have hfull : full.text.toList = before ++ '/' :: cs := by
    rw [htext, hopening, List.append_assoc, List.singleton_append]
  have hlast : stepsOf cs ≠ [] := stepsOf_ne_nil_of_isFile hfull h
  have hsteps : full.steps = p.steps ++ stepsOf cs := by
    rw [Path.steps_eq_stepsOf, hfull, Path.stepsOf_append, hbefore]
  by_cases hend : p.endsInSeparator = true
  · rw [Path.opening_of_endsInSeparator hend] at htext
    exact isDirectory_of_append hp htext hsteps hlast hloc
  · rw [Path.opening_of_not_endsInSeparator hp (Bool.eq_false_iff.2 hend), List.append_assoc,
      List.singleton_append] at htext
    refine isDirectory_of_append hp htext ?_ ?_ hloc
    · rw [Path.stepsOf_cons_separator, hsteps]
    · rwa [Path.stepsOf_cons_separator]

/-- A relative path leads through the working directory. -/
theorem isDirectory_here (hrelative : full.isAbsolute = false) (h : fs.isFile full = true) :
    fs.isDirectory ⟨"."⟩ = true := by
  obtain ⟨-, loc, -, -, hloc, -⟩ := isFile_iff.1 h
  obtain ⟨-, hempty, -, hwalk⟩ := locate_eq_ok.1 hloc
  have hne : full.text.toList ≠ [] := by simpa [Path.isEmpty] using hempty
  obtain ⟨c, cs, hcs⟩ := List.exists_cons_of_ne_nil hne
  have hc : c ≠ '/' := by simpa [Path.isAbsolute, hcs] using hrelative
  have hsteps : full.steps ≠ [] := by
    rw [Path.steps_eq_stepsOf]
    exact Path.stepsOf_ne_nil (hcs ▸ List.mem_cons_self) hc
  obtain ⟨step, steps, hcons⟩ := List.exists_cons_of_ne_nil hsteps
  rw [hrelative, if_neg Bool.false_ne_true, hcons] at hwalk
  have hcurrent := lookup?_of_walk_cons hwalk
  refine isDirectory_iff.2 ⟨fs.current, locate_eq_ok.2 ⟨by decide, by decide, by decide, ?_⟩,
    hcurrent⟩
  rw [show (⟨"."⟩ : Path).steps = ["."] by decide, show (⟨"."⟩ : Path).isAbsolute = false by decide,
    if_neg Bool.false_ne_true, walk, hcurrent]
  simp [walk]

/-! ## Fewer characters -/

/-- **A file that is written shorter**, with the same end and in such a way that the walk is the
same, is the same file. -/
theorem isFile_of_shorter {a b c : List Char} (hfull : full.text.toList = a ++ (b ++ c))
    (hshort : short.text.toList = a ++ c) (hc : c ≠ [])
    (hwalk : ∀ loc, fs.walk (fs.origin full) full.steps = .ok loc →
      fs.walk (fs.origin short) short.steps = .ok loc)
    (h : fs.isFile full = true) : fs.isFile short = true ∧ fs.locate short = fs.locate full := by
  obtain ⟨hend, loc, content, executable, hloc, hentry⟩ := isFile_iff.1 h
  obtain ⟨hnul, hempty, hsize, hreached⟩ := locate_eq_ok.1 hloc
  have hshortLoc : fs.locate short = .ok loc := by
    refine locate_eq_ok.2 ⟨?_, ?_, ?_, hwalk loc hreached⟩
    · rw [hfull] at hnul
      rw [hshort]
      simp only [List.mem_append, not_or] at hnul ⊢
      exact ⟨hnul.1, hnul.2.2⟩
    · have hne : short.text.toList ≠ [] := by
        rw [hshort]
        exact List.append_ne_nil_of_right_ne_nil _ hc
      simpa [Path.isEmpty] using hne
    · have hfullText : full.text = String.ofList a ++ (String.ofList b ++ String.ofList c) := by
        apply String.toList_injective
        simp [hfull]
      have hshortText : short.text = String.ofList a ++ String.ofList c := by
        apply String.toList_injective
        simp [hshort]
      rw [hfullText, String.utf8ByteSize_append, String.utf8ByteSize_append] at hsize
      rw [hshortText, String.utf8ByteSize_append]
      omega
  refine ⟨isFile_iff.2 ⟨?_, loc, content, executable, hshortLoc, hentry⟩, hshortLoc.trans hloc.symm⟩
  rw [Path.endsInSeparator, hfull, ← List.append_assoc, List.getLast?_append_of_ne_nil _ hc] at hend
  rwa [Path.endsInSeparator, hshort, List.getLast?_append_of_ne_nil _ hc]

/-- **A second separator says nothing.** -/
theorem isFile_of_second_separator {cs : List Char} (hp : p.isEmpty = false)
    (htext : full.text.toList = p.opening ++ '/' :: cs)
    (hshort : short.text.toList = p.opening ++ cs) (h : fs.isFile full = true) :
    fs.isFile short = true ∧ fs.locate short = fs.locate full := by
  obtain ⟨before, hopening, -⟩ := Path.exists_opening hp
  have hcs : cs ≠ [] := by
    rintro rfl
    exact stepsOf_ne_nil_of_isFile htext h rfl
  have hne : p.opening ≠ [] := by simp [hopening]
  have habsolute : short.isAbsolute = full.isAbsolute := by
    rw [Path.isAbsolute, Path.isAbsolute, htext, hshort, List.head?_append_of_ne_nil _ hne,
      List.head?_append_of_ne_nil _ hne]
  have hsteps : short.steps = full.steps := by
    rw [Path.steps_eq_stepsOf, Path.steps_eq_stepsOf, htext, hshort, hopening, List.append_assoc,
      List.append_assoc, List.singleton_append, List.singleton_append, Path.stepsOf_append,
      Path.stepsOf_append, Path.stepsOf_cons_separator]
  refine isFile_of_shorter (b := ['/']) htext hshort hcs (fun loc hloc => ?_) h
  rwa [origin, habsolute, hsteps]

/-- A `.` in front, with one separator, says nothing. -/
theorem isFile_of_dot {cs : List Char} (htext : full.text.toList = '.' :: '/' :: cs)
    (hshort : short.text.toList = cs) (hrelative : short.isAbsolute = false)
    (h : fs.isFile full = true) :
    fs.isFile short = true ∧ fs.locate short = fs.locate full := by
  have hbefore : full.text.toList = ['.'] ++ '/' :: cs := htext
  have hcs : cs ≠ [] := by
    rintro rfl
    exact stepsOf_ne_nil_of_isFile hbefore h rfl
  have hfull : full.isAbsolute = false := by
    rw [Path.isAbsolute, htext]
    rfl
  have hsteps : full.steps = "." :: short.steps := by
    rw [Path.steps_eq_stepsOf, Path.steps_eq_stepsOf, htext, hshort]
    exact Path.stepsOf_append ['.'] cs
  refine isFile_of_shorter (a := []) (b := ['.', '/']) htext hshort hcs (fun loc hloc => ?_) h
  have hcurrent := lookup?_of_walk_cons (hsteps ▸ hloc)
  rw [hsteps, walk, hcurrent] at hloc
  simpa [origin, hfull, hrelative] using hloc

end Clinker.FileSystem

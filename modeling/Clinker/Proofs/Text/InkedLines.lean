import Clinker.Proofs.Text.Lines
import Clinker.Proofs.Text.Trimming

/-!
# The lines of a text that are not blank

Of some lines, `inked` keeps those that are not blank, without the white space at their ends. To
find them in a text it is enough to cut it at its line feeds: how a line ends does not matter when
white space at its end is dropped (`inked_lines`). So they can be found part by part
(`inked_lines_append`), and white space at the end of the text is not seen
(`inked_lines_append_of_forall`).
-/

namespace Clinker.Text

/-- The lines that are not blank, without white space at their ends. -/
def inked (lines : List (List Char)) : List (List Char) :=
  (lines.filter fun line => !line.all isSpace).map trimEndChars

theorem map_trimEnd_inkedLines (s : String) :
    (inkedLines s).map trimEnd = (inked (lines s.toList)).map String.ofList := by
  simp [inkedLines, inked, trimEnd, onChars, Function.comp_def]

theorem inked_append (lines lines' : List (List Char)) :
    inked (lines ++ lines') = inked lines ++ inked lines' := by
  rw [inked, List.filter_append, List.map_append, inked, inked]

theorem isEmpty_trimEndChars (line : List Char) :
    (trimEndChars line).isEmpty = line.all isSpace := by
  rw [Bool.eq_iff_iff, List.isEmpty_iff, trimEndChars, dropEndWhile_eq_nil_iff, List.all_eq_true]

/-- Trimming first, a line is blank when nothing is left of it. -/
theorem inked_eq (lines : List (List Char)) :
    inked lines = (lines.map trimEndChars).filter fun line => !line.isEmpty := by
  have hblank : (fun line : List Char => !line.isEmpty) ∘ trimEndChars =
      fun line => !line.all isSpace := by
    funext line
    rw [Function.comp_apply, isEmpty_trimEndChars]
  rw [inked, List.filter_map, hblank]

/-- Only what is left of a line when it is trimmed matters. -/
theorem inked_congr {lines lines' : List (List Char)}
    (h : lines.map trimEndChars = lines'.map trimEndChars) : inked lines = inked lines' := by
  rw [inked_eq, h, inked_eq]

theorem inked_cons_congr {line line' : List Char} (h : trimEndChars line = trimEndChars line')
    {lines lines' : List (List Char)} (hlines : inked lines = inked lines') :
    inked (line :: lines) = inked (line' :: lines') := by
  have hline : inked [line] = inked [line'] := inked_congr (by simp [h])
  rw [← List.singleton_append, inked_append, hline, hlines, ← inked_append,
    List.singleton_append]

/-! ## Lines and pieces -/

theorem trimEndChars_dropFinalReturn (line : List Char) :
    trimEndChars (dropFinalReturn line) = trimEndChars line := by
  by_cases hcr : line.getLast? = some '\r'
  · obtain ⟨front, rfl⟩ := List.getLast?_eq_some_iff.1 hcr
    rw [dropFinalReturn_return]
    exact (dropEndWhile_append_of_forall (List.all_eq_true.1 (by decide)) front).symm
  · rw [dropFinalReturn_of_ne hcr]

theorem inked_unterminated (pieces : List (List Char)) :
    inked (lines.unterminated pieces) = inked pieces := by
  induction pieces using lines.unterminated.induct with
  | case1 => rfl
  | case2 line hempty =>
    rw [List.isEmpty_iff] at hempty
    subst hempty
    rfl
  | case3 line hline => rw [lines.unterminated, if_neg hline]
  | case4 line pieces hne ih =>
    rw [lines.unterminated]
    · exact inked_cons_congr (trimEndChars_dropFinalReturn line) ih
    · exact hne

/-- **How a line ends does not matter.** The lines with ink are those between line feeds. -/
theorem inked_lines (cs : List Char) : inked (lines cs) = inked (pieces (· == '\n') cs) :=
  inked_unterminated _

theorem inked_lines_append (cs cs' : List Char) :
    inked (lines (cs ++ '\n' :: cs')) = inked (lines cs) ++ inked (lines cs') := by
  rw [inked_lines, pieces_eq_splitOnP, List.splitOnP_append_cons _ _ (by rfl), inked_append,
    ← pieces_eq_splitOnP, ← pieces_eq_splitOnP, ← inked_lines, ← inked_lines]

/-! ## White space at the end -/

/-- One more character at the end of a text belongs to its last piece. -/
theorem exists_pieces_concat {p : Char → Bool} {c : Char} (h : p c = false) (cs : List Char) :
    ∃ front last, pieces p cs = front ++ [last] ∧
      pieces p (cs ++ [c]) = front ++ [last ++ [c]] := by
  induction cs with
  | nil => exact ⟨[], [], rfl, pieces_of_forall_not (by simpa using h)⟩
  | cons d cs ih =>
    obtain ⟨front, last, hcs, hconcat⟩ := ih
    cases hd : p d with
    | true =>
      refine ⟨[] :: front, last, ?_, ?_⟩
      · rw [pieces_cons_of_pos hd, hcs, List.cons_append]
      · rw [List.cons_append, pieces_cons_of_pos hd, hconcat, List.cons_append]
    | false =>
      cases front with
      | nil => exact ⟨[], d :: last, pieces_cons_of_neg hd hcs, pieces_cons_of_neg hd hconcat⟩
      | cons first front =>
        exact ⟨(d :: first) :: front, last, pieces_cons_of_neg hd hcs,
          pieces_cons_of_neg hd hconcat⟩

theorem inked_lines_concat {c : Char} (h : isSpace c = true) (cs : List Char) :
    inked (lines (cs ++ [c])) = inked (lines cs) := by
  by_cases hc : c = '\n'
  · subst hc
    rw [inked_lines_append]
    exact List.append_nil _
  · have hpiece : (c == '\n') = false := beq_eq_false_iff_ne.2 hc
    obtain ⟨front, last, hcs, hconcat⟩ := exists_pieces_concat (p := (· == '\n')) hpiece cs
    have hlast : trimEndChars (last ++ [c]) = trimEndChars last :=
      dropEndWhile_append_of_forall (by simpa using h) last
    rw [inked_lines, inked_lines, hcs, hconcat]
    exact inked_congr (by simp [hlast])

/-- **White space at the end of a text has no ink.** -/
theorem inked_lines_append_of_forall {blank : List Char} (h : ∀ c ∈ blank, isSpace c = true)
    (cs : List Char) : inked (lines (cs ++ blank)) = inked (lines cs) := by
  induction blank generalizing cs with
  | nil => rw [List.append_nil]
  | cons c blank ih =>
    rw [List.forall_mem_cons] at h
    rw [List.append_cons, ih h.2, inked_lines_concat h.1]

theorem inked_lines_of_forall {cs : List Char} (h : ∀ c ∈ cs, isSpace c = true) :
    inked (lines cs) = [] :=
  inked_lines_append_of_forall h []

theorem inked_lines_trimEndChars (cs : List Char) :
    inked (lines (trimEndChars cs)) = inked (lines cs) := by
  have hblank : ∀ c ∈ cs.rtakeWhile isSpace, isSpace c = true := fun c => List.mem_rtakeWhile_imp
  rw [← inked_lines_append_of_forall hblank]
  exact congrArg (fun cs => inked (lines cs)) List.rdropWhile_append_rtakeWhile

end Clinker.Text

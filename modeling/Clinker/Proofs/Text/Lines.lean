import Clinker.Proofs.Text.Pieces

/-!
# Lines of a text

`Lines` says what the lines of a text are without cutting it: a line ends at a line feed, and one
carriage return before the line feed belongs to the end of the line. `Text.lines` finds exactly
these (`lines_eq_iff`).
-/

namespace Clinker.Text

/-- The lines of a text. What is left after the last line feed is a line too, unless it is
empty. -/
inductive Lines : List Char → List (List Char) → Prop
  | nil : Lines [] []
  | last {line : List Char} : line ≠ [] → '\n' ∉ line → Lines line [line]
  | lf {line rest : List Char} {lines : List (List Char)} :
      '\n' ∉ line → line.getLast? ≠ some '\r' → Lines rest lines →
      Lines (line ++ '\n' :: rest) (line :: lines)
  | crlf {line rest : List Char} {lines : List (List Char)} :
      '\n' ∉ line → Lines rest lines → Lines (line ++ '\r' :: '\n' :: rest) (line :: lines)

/-! ## The final carriage return -/

theorem dropFinalReturn_return (line : List Char) : dropFinalReturn (line ++ ['\r']) = line := by
  induction line with
  | nil => rfl
  | cons c line ih =>
    rw [List.cons_append, dropFinalReturn, ih]
    simp

theorem dropFinalReturn_of_ne {line : List Char} (h : line.getLast? ≠ some '\r') :
    dropFinalReturn line = line := by
  induction line with
  | nil => rfl
  | cons c line ih =>
    cases line with
    | nil =>
      have hc : c ≠ '\r' := by simpa using h
      rw [dropFinalReturn]
      · rfl
      · simp [hc]
    | cons d line =>
      rw [List.getLast?_cons_cons] at h
      rw [dropFinalReturn, ih h]
      simp

/-! ## Cutting off one line -/

theorem lines_last {line : List Char} (hne : line ≠ []) (hline : '\n' ∉ line) :
    lines line = [line] := by
  rw [lines, pieces_of_not_mem hline, lines.unterminated,
    if_neg (by simpa using hne)]

/-- **A line feed ends the first line.** -/
theorem lines_append_cons {line : List Char} (hline : '\n' ∉ line) (rest : List Char) :
    lines (line ++ '\n' :: rest) = dropFinalReturn line :: lines rest := by
  obtain ⟨first, more, hrest⟩ := exists_pieces_eq_cons (· == '\n') rest
  rw [lines, pieces_append_cons_of_not_mem hline, lines, hrest,
    lines.unterminated]
  simp

/-! ## The lines found are the lines -/

theorem lines_of_lines {cs : List Char} {ls : List (List Char)} (h : Lines cs ls) :
    lines cs = ls := by
  induction h with
  | nil => rfl
  | last hne hline => exact lines_last hne hline
  | lf hline hcr _ ih => rw [lines_append_cons hline, dropFinalReturn_of_ne hcr, ih]
  | @crlf line rest _ hline _ ih =>
    have hline' : '\n' ∉ line ++ ['\r'] := by simpa using hline
    have htext : line ++ '\r' :: '\n' :: rest = (line ++ ['\r']) ++ '\n' :: rest := by simp
    rw [htext, lines_append_cons hline', dropFinalReturn_return, ih]

/-- Every text has lines. The induction is on its length, one line at a time. -/
theorem exists_lines (cs : List Char) : ∃ ls, Lines cs ls := by
  by_cases hmem : '\n' ∈ cs
  · obtain ⟨line, rest, hcs, hline⟩ := List.eq_append_cons_of_mem hmem
    obtain ⟨ls, hls⟩ := exists_lines rest
    by_cases hcr : line.getLast? = some '\r'
    · obtain ⟨front, hfront⟩ := List.getLast?_eq_some_iff.1 hcr
      refine ⟨front :: ls, ?_⟩
      rw [hcs, hfront, List.append_assoc, List.singleton_append]
      refine .crlf (fun h => hline ?_) hls
      rw [hfront]
      exact List.mem_append_left _ h
    · exact ⟨line :: ls, hcs ▸ .lf hline hcr hls⟩
  · cases cs with
    | nil => exact ⟨[], .nil⟩
    | cons c cs => exact ⟨[c :: cs], .last (List.cons_ne_nil c cs) hmem⟩
termination_by cs.length
decreasing_by
  rw [hcs, List.length_append, List.length_cons]
  omega

/-- **`Text.lines` finds the lines of a text.** -/
theorem lines_eq_iff {cs : List Char} {ls : List (List Char)} : lines cs = ls ↔ Lines cs ls := by
  refine ⟨?_, lines_of_lines⟩
  rintro rfl
  obtain ⟨ls, hls⟩ := exists_lines cs
  rwa [lines_of_lines hls]

end Clinker.Text

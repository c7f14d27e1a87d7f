import Clinker.Proofs.CommandLine.Scanning
import Mathlib.Tactic.ByContra

/-!
# Lines put together

A line made of two lines with white space between them has the arguments of the one and then those
of the other, provided that the first line closes its quotes (`split_append_iff`). The scan looks
beyond a run of backslashes and beyond a closing quote, but white space outside quotes settles both
at once: the run is plain text and the quote has closed.

If the first line leaves its quotes open, the white space goes into the argument that is open
(`scan_append_quoted`), so the arguments never come apart there.
-/

namespace Clinker.CommandLine

/-- A line that does not end inside quotes. -/
def ClosesQuotes (line : String) : Prop := (Scan.between.after line.toList).isQuoted = false

instance (line : String) : Decidable (ClosesQuotes line) :=
  inferInstanceAs (Decidable ((Scan.between.after line.toList).isQuoted = false))

variable {c : Char} {space : List Char}

/-! ## Outside quotes -/

/-- Separators in front of a line belong to no argument. -/
theorem splitChars_append_of_separators (h : ∀ c ∈ space, isSeparator c = true)
    (line : List Char) : splitChars (space ++ line) = splitChars line := by
  induction space with
  | nil => rfl
  | cons c space ih =>
    rw [List.forall_mem_cons] at h
    rw [List.cons_append, splitChars_cons_separator h.1, ih h.2]

/-! ## Inside quotes -/

/-- **A separator inside quotes goes on with the argument that is open**, which is the last one of
the text before it. -/
theorem scan_append_quoted (h : isSeparator c = true) (line text : List Char) (s : Scan)
    (hs : (s.after text).isQuoted = true) :
    ∃ front last more rest, scan s text = front ++ [last] ∧
      scan s (text ++ c :: line) = front ++ (last ++ c :: more) :: rest := by
  induction text generalizing s with
  | nil =>
    cases s with
    | between => cases hs
    | closing => cases hs
    | inside quoted run =>
      obtain rfl : quoted = true := hs
      obtain ⟨hb, hq⟩ := ne_of_isSeparator h
      have hread : (Scan.inside true run).read c =
          .keep (List.replicate run '\\' ++ [c]) (.inside true 0) := by
        simp [Scan.read, readInside, hb, hq]
      have hopen : scan (.inside true 0) line ≠ [] :=
        scan_ne_nil (Scan.ne_between_of_read hread) line
      obtain ⟨more, rest, hmore⟩ := List.exists_cons_of_ne_nil hopen
      refine ⟨[], List.replicate run '\\', more, rest, rfl, ?_⟩
      simp [scan, hread, hmore]
  | cons d text ih =>
    simp only [Scan.after_cons, Scan.next] at hs
    simp only [List.cons_append, scan]
    cases hr : s.read d with
    | skip =>
      rw [hr] at hs
      exact ih _ hs
    | finish written =>
      rw [hr] at hs
      obtain ⟨front, last, more, rest, htext, hline⟩ := ih _ hs
      exact ⟨written :: front, last, more, rest, congrArg (written :: ·) htext,
        congrArg (written :: ·) hline⟩
    | keep written s' =>
      rw [hr] at hs
      obtain ⟨front, last, more, rest, htext, hline⟩ := ih _ hs
      simp only [htext, hline]
      -- What is written goes in front of the first argument, which may be the open one.
      cases front with
      | nil => exact ⟨[], written ++ last, more, rest, rfl, by simp⟩
      | cons first front => exact ⟨(written ++ first) :: front, last, more, rest, rfl, rfl⟩

/-! ## Whole lines -/

/-- **Lines fall apart at white space exactly outside quotes.** -/
theorem splitChars_append_iff (hne : space ≠ []) (h : ∀ c ∈ space, isSeparator c = true)
    (first second : List Char) :
    splitChars (first ++ space ++ second) = splitChars first ++ splitChars second ↔
      (Scan.between.after first).isQuoted = false := by
  obtain ⟨c, more, rfl⟩ := List.exists_cons_of_ne_nil hne
  rw [List.forall_mem_cons] at h
  rw [List.append_assoc, List.cons_append]
  constructor
  · intro hsplit
    by_contra hquoted
    rw [Bool.not_eq_false] at hquoted
    -- The last argument of `first` would have to go on with a separator and yet be the same.
    obtain ⟨front, last, written, rest, hfirst, hwhole⟩ :=
      scan_append_quoted h.1 (more ++ second) first .between hquoted
    simp only [splitChars] at hsplit
    rw [hwhole, hfirst, List.append_assoc, List.append_cancel_left_eq] at hsplit
    have hlast : last ++ c :: written = last := (List.cons.inj hsplit).1
    simp at hlast
  · intro hclosed
    have hrest := scan_append_separator h.1 (more ++ second) first .between hclosed
    rw [splitChars_append_of_separators h.2] at hrest
    exact hrest

/-- **A line that closes its quotes is cut on its own**, and only such a line is: with white space
between them, two lines have the arguments of the first and then those of the second. -/
theorem split_append_iff {space : String} (hne : space ≠ "")
    (h : ∀ c ∈ space.toList, c = ' ' ∨ c = '\t' ∨ c = '\r' ∨ c = '\n') (first second : String) :
    split (first ++ space ++ second) = split first ++ split second ↔ ClosesQuotes first := by
  have hne' : space.toList ≠ [] := by simpa using hne
  have h' : ∀ c ∈ space.toList, isSeparator c = true := fun c hc => isSeparator_iff.2 (h c hc)
  have hlists := splitChars_append_iff hne' h' first.toList second.toList
  rw [ClosesQuotes, ← hlists, split, split, split, ← List.map_append,
    List.map_inj_right fun _ _ => String.ofList_inj.1]
  simp only [String.toList_append]

/-- Two lines of a response file, the first of which ends in a backslash outside quotes. -/
theorem split_twoLines :
    split ("\"a \"\"b\" c\\" ++ "\r\n" ++ "d \"e f\"") =
      split "\"a \"\"b\" c\\" ++ split "d \"e f\"" ∧
    split "\"a \"\"b\" c\\" = ["a \"b", "c\\"] ∧ split "d \"e f\"" = ["d", "e f"] := by
  have hclosed : ClosesQuotes "\"a \"\"b\" c\\" := by decide
  have hspace : ∀ c ∈ "\r\n".toList, c = ' ' ∨ c = '\t' ∨ c = '\r' ∨ c = '\n' := by simp
  exact ⟨(split_append_iff (by decide) hspace _ _).2 hclosed, by decide, by decide⟩

end Clinker.CommandLine

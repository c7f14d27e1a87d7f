import Clinker.CommandLine.Quote
import Mathlib.Data.String.Basic
import Mathlib.Tactic.SplitIfs

/-!
# The length of a command line

A line is as long in bytes as its written arguments with one space between neighbours, so it is at
least as long as each of them.

Quoting makes an argument longer by its quotes and by the backslashes it doubles. Ordinary
characters, which are neither backslashes nor quotes nor spaces, are written as they are. What
matters is where they stand: behind a run of backslashes they spare it the doubling that the
closing quote would have cost (`utf8Len_escapeFrom_append_le`). So an argument that goes on at its
end instead of its beginning is not written longer (`utf8Len_quoteChars_surround_le`).
-/

namespace Clinker.CommandLine

theorem join_cons_cons (arg arg' : String) (args : List String) :
    join (arg :: arg' :: args) = quote arg ++ " " ++ join (arg' :: args) := by
  apply String.toList_injective
  simp [joinChars_cons_cons]

theorem utf8ByteSize_join_cons_cons (arg arg' : String) (args : List String) :
    (join (arg :: arg' :: args)).utf8ByteSize =
      (quote arg).utf8ByteSize + 1 + (join (arg' :: args)).utf8ByteSize := by
  rw [join_cons_cons, String.utf8ByteSize_append, String.utf8ByteSize_append]
  rfl

/-- **No written argument is longer than the line.** -/
theorem utf8ByteSize_quote_le_join {arg : String} {args : List String} (h : arg ∈ args) :
    (quote arg).utf8ByteSize ≤ (join args).utf8ByteSize := by
  induction args with
  | nil => cases h
  | cons first args ih =>
    cases args with
    | nil =>
      obtain rfl : arg = first := by simpa using h
      exact Nat.le_refl _
    | cons second args =>
      rw [utf8ByteSize_join_cons_cons]
      rcases List.mem_cons.1 h with rfl | h
      · omega
      · have := ih h
        omega

/-- A line of several arguments is longer than each of them written. -/
theorem utf8ByteSize_quote_lt_join {arg : String} {args : List String} (h : arg ∈ args)
    (hmore : 2 ≤ args.length) : (quote arg).utf8ByteSize < (join args).utf8ByteSize := by
  obtain _ | ⟨first, _ | ⟨second, args⟩⟩ := args
  · cases h
  · simp at hmore
  · rw [utf8ByteSize_join_cons_cons]
    rcases List.mem_cons.1 h with rfl | h
    · omega
    · have := utf8ByteSize_quote_le_join h
      omega

theorem utf8ByteSize_quote (arg : String) :
    (quote arg).utf8ByteSize = String.utf8Len (quoteChars arg.toList) := by
  rw [← toList_quote, ← String.utf8ByteSize_ofList, String.ofList_toList]

/-! ## Ordinary characters -/

/-- A character that quoting has nothing to do with. -/
def isOrdinary (c : Char) : Bool := c != '\\' && c != '"' && c != ' '

theorem ne_of_isOrdinary {c : Char} (h : isOrdinary c = true) : c ≠ '\\' ∧ c ≠ '"' ∧ c ≠ ' ' := by
  simpa [isOrdinary, and_assoc] using h

variable {front tail : List Char} {run : Nat}

theorem escapeFrom_ordinary_cons {c : Char} (h : isOrdinary c = true) (arg : List Char) :
    escapeFrom run (c :: arg) = backslashes run ++ c :: escapeFrom 0 arg := by
  obtain ⟨hb, hq, -⟩ := ne_of_isOrdinary h
  simp [escapeFrom, hb, hq]

/-- Ordinary characters in front of an argument are written as they are. -/
theorem escapeFrom_ordinary_append (h : ∀ c ∈ front, isOrdinary c = true) (arg : List Char) :
    escapeFrom 0 (front ++ arg) = front ++ escapeFrom 0 arg := by
  induction front with
  | nil => rfl
  | cons c front ih =>
    rw [List.forall_mem_cons] at h
    rw [List.cons_append, escapeFrom_ordinary_cons h.1, ih h.2]
    rfl

theorem utf8Len_backslashes (n : Nat) : String.utf8Len (backslashes n) = n := by
  induction n with
  | zero => rfl
  | succ n ih =>
    rw [backslashes, List.replicate_succ, String.utf8Len_cons, ih]
    rfl

/-- **Ordinary characters at the end cost no more than themselves.** The run in front of them need
not be doubled any more. -/
theorem utf8Len_escapeFrom_append_le (h : ∀ c ∈ tail, isOrdinary c = true) (arg : List Char)
    (run : Nat) : String.utf8Len (escapeFrom run (arg ++ tail)) ≤
      String.utf8Len (escapeFrom run arg) + String.utf8Len tail := by
  -- The run that is held back grows along `arg`, so the induction is for every run.
  induction arg generalizing run with
  | nil =>
    -- Here the run is written once in front of `tail`, but twice if nothing follows it.
    cases tail with
    | nil => simp
    | cons c tail =>
      rw [List.forall_mem_cons] at h
      have htail := escapeFrom_ordinary_append h.2 []
      simp only [List.append_nil, escapeFrom, Nat.zero_mul, List.replicate_zero] at htail
      rw [List.nil_append, escapeFrom_ordinary_cons h.1, htail, escapeFrom]
      simp only [String.utf8Len_append, utf8Len_backslashes]
      omega
  | cons c arg ih =>
    rw [List.cons_append, escapeFrom, escapeFrom]
    split_ifs
    · exact ih (run + 1)
    · have := ih 0
      simp only [String.utf8Len_append, String.utf8Len_cons]
      omega
    · have := ih 0
      simp only [String.utf8Len_append, String.utf8Len_cons]
      omega

/-! ## Text around an argument -/

/-- Ordinary characters around an argument leave it to the argument whether quotes are needed. -/
theorem isPlain_surround (hfront : ∀ c ∈ front, isOrdinary c = true) (hne : front ≠ [])
    (htail : ∀ c ∈ tail, isOrdinary c = true) (arg : List Char) :
    isPlain (front ++ arg ++ tail) = arg.all fun c => c != ' ' && c != '"' := by
  have hplain : ∀ text : List Char, (∀ c ∈ text, isOrdinary c = true) →
      (text.all fun c => c != ' ' && c != '"') = true := by
    intro text htext
    rw [List.all_eq_true]
    intro c hc
    obtain ⟨-, hq, hs⟩ := ne_of_isOrdinary (htext c hc)
    simp [hq, hs]
  have hfilled : (front ++ arg ++ tail).isEmpty = false := by simp [hne]
  simp only [isPlain, hfilled, List.all_append, hplain front hfront, hplain tail htail,
    Bool.not_false, Bool.true_and, Bool.and_true]

/-- **An argument is not written longer when as many characters go from its front to its end.** -/
theorem utf8Len_quoteChars_surround_le {front' : List Char}
    (hfront : ∀ c ∈ front, isOrdinary c = true) (hne : front ≠ [])
    (hfront' : ∀ c ∈ front', isOrdinary c = true) (hne' : front' ≠ [])
    (htail : ∀ c ∈ tail, isOrdinary c = true)
    (hlen : String.utf8Len front + String.utf8Len tail ≤ String.utf8Len front')
    (arg : List Char) : String.utf8Len (quoteChars (front ++ arg ++ tail)) ≤
      String.utf8Len (quoteChars (front' ++ arg)) := by
  have hplain := isPlain_surround hfront hne htail arg
  have hplain' := isPlain_surround hfront' hne' (List.forall_mem_nil _) arg
  rw [List.append_nil] at hplain'
  unfold quoteChars
  rw [hplain, hplain']
  split_ifs
  · simp only [String.utf8Len_append]
    omega
  · have hescape := utf8Len_escapeFrom_append_le htail arg 0
    rw [List.append_assoc, escapeFrom_ordinary_append hfront, escapeFrom_ordinary_append hfront']
    simp only [String.utf8Len_cons, String.utf8Len_append]
    omega

end Clinker.CommandLine

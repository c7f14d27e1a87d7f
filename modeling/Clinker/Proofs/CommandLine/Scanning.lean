import Clinker.CommandLine.Split
import Mathlib.Tactic.SplitIfs

/-!
# Scanning a line in parts

A line can be cut anywhere outside quotes where a separator stands: what comes before the
separator and what comes after it are scanned on their own. Inside one argument a scan adds to
what it has read, and `Scan.Writes` says what it adds.

**State.** `Scan.after` is where a scan stands after some text. It is in quotes exactly when a
separator would be part of the argument (`Scan.isQuoted`).

Main results: `scan_append_separator`, which cuts a line, and `Scan.Writes.scan_append`, which
reads a part of one argument.
-/

namespace Clinker.CommandLine

namespace Scan

/-! ## Where a scan stands -/

/-- Where a scan stands after one character. -/
def next (s : Scan) (c : Char) : Scan :=
  match s.read c with
  | .skip | .finish _ => .between
  | .keep _ s' => s'

/-- Where a scan stands after some text. -/
def after (s : Scan) (text : List Char) : Scan := text.foldl next s

/-- Whether separators are part of the argument. A quote that closes the argument's quotes unless
another one follows has closed them. -/
def isQuoted : Scan → Bool
  | .inside quoted _ => quoted
  | .between | .closing => false

@[simp] theorem after_nil (s : Scan) : s.after [] = s := rfl

@[simp] theorem after_cons (s : Scan) (c : Char) (text : List Char) :
    s.after (c :: text) = (s.next c).after text := rfl

theorem after_append (s : Scan) (text more : List Char) :
    s.after (text ++ more) = (s.after text).after more :=
  List.foldl_append

end Scan

/-! ## Separators -/

theorem isSeparator_iff {c : Char} :
    isSeparator c = true ↔ c = ' ' ∨ c = '\t' ∨ c = '\r' ∨ c = '\n' := by
  simp [isSeparator, or_assoc]

theorem ne_of_isSeparator {c : Char} (h : isSeparator c = true) : c ≠ '\\' ∧ c ≠ '"' := by
  constructor <;> rintro rfl <;> exact absurd h (by decide)

theorem readInside_separator {c : Char} (h : isSeparator c = true) (run : Nat) :
    readInside false run c = .finish (List.replicate run '\\') := by
  obtain ⟨hb, hq⟩ := ne_of_isSeparator h
  simp [readInside, hb, hq, h]

/-- A separator outside quotes ends the argument that is open, if one is. -/
theorem scan_separator {s : Scan} (hs : s.isQuoted = false) {c : Char} (h : isSeparator c = true)
    (line : List Char) : scan s (c :: line) = s.rest ++ splitChars line := by
  have hq := (ne_of_isSeparator h).2
  cases s with
  | between => simp [scan, Scan.read, Scan.rest, splitChars, h]
  | closing => simp [scan, Scan.read, Scan.rest, splitChars, hq, readInside_separator h]
  | inside quoted run =>
    obtain rfl : quoted = false := hs
    simp [scan, Scan.read, Scan.rest, splitChars, readInside_separator h]

theorem Scan.next_separator {s : Scan} (hs : s.isQuoted = false) {c : Char}
    (h : isSeparator c = true) : s.next c = .between := by
  have hq := (ne_of_isSeparator h).2
  cases s with
  | between => simp [next, read, h]
  | closing => simp [next, read, hq, readInside_separator h]
  | inside quoted run =>
    obtain rfl : quoted = false := hs
    simp [next, read, readInside_separator h]

/-- Only a quote opens quotes. -/
theorem Scan.isQuoted_next {s : Scan} (hs : s.isQuoted = false) {c : Char} (hc : c ≠ '"') :
    (s.next c).isQuoted = false := by
  cases s with
  | between =>
    simp only [next, read, readInside, beq_iff_eq, hc, if_false]
    split_ifs <;> rfl
  | closing =>
    simp only [next, read, readInside, beq_iff_eq, hc, if_false]
    split_ifs <;> rfl
  | inside quoted run =>
    obtain rfl : quoted = false := hs
    simp only [next, read, readInside, beq_iff_eq, hc, if_false]
    split_ifs <;> rfl

theorem Scan.isQuoted_after {text : List Char} (h : '"' ∉ text) {s : Scan}
    (hs : s.isQuoted = false) : (s.after text).isQuoted = false := by
  induction text generalizing s with
  | nil => exact hs
  | cons c text ih =>
    obtain ⟨hc, htext⟩ : '"' ≠ c ∧ '"' ∉ text := by simpa using h
    exact ih htext (isQuoted_next hs hc.symm)

/-! ## Arguments stay open -/

theorem readInside_cases (quoted : Bool) (run : Nat) (c : Char) :
    (∃ written, readInside quoted run c = .finish written) ∨
      ∃ written s, readInside quoted run c = .keep written s ∧ s ≠ .between := by
  unfold readInside
  split_ifs
  · exact .inr ⟨_, _, rfl, nofun⟩
  · exact .inr ⟨_, _, rfl, nofun⟩
  · exact .inr ⟨_, _, rfl, nofun⟩
  · exact .inr ⟨_, _, rfl, nofun⟩
  · exact .inl ⟨_, rfl⟩
  · exact .inr ⟨_, _, rfl, nofun⟩

/-- What a character can do: only between arguments is one skipped, and an argument that goes on
stays open. -/
theorem Scan.read_cases (s : Scan) (c : Char) :
    (s = .between ∧ s.read c = .skip) ∨ (∃ written, s.read c = .finish written) ∨
      ∃ written s', s.read c = .keep written s' ∧ s' ≠ .between := by
  cases s with
  | between =>
    by_cases h : isSeparator c = true
    · exact .inl ⟨rfl, by simp [read, h]⟩
    · rw [read, if_neg h]
      exact .inr (readInside_cases false 0 c)
  | closing =>
    by_cases h : (c == '"') = true
    · exact .inr (.inr ⟨_, _, if_pos h, by simp⟩)
    · rw [read, if_neg h]
      exact .inr (readInside_cases false 0 c)
  | inside quoted run => exact .inr (readInside_cases quoted run c)

theorem Scan.ne_between_of_read {s s' : Scan} {c : Char} {written : List Char}
    (h : s.read c = .keep written s') : s' ≠ .between := by
  obtain ⟨-, hr⟩ | ⟨_, hr⟩ | ⟨_, _, hr, hne⟩ := s.read_cases c <;> rw [hr] at h <;> cases h
  exact hne

theorem Scan.read_ne_skip {s : Scan} (hs : s ≠ .between) (c : Char) : s.read c ≠ .skip := by
  obtain ⟨rfl, -⟩ | ⟨_, hr⟩ | ⟨_, _, hr, -⟩ := s.read_cases c
  · exact absurd rfl hs
  · simp [hr]
  · simp [hr]

theorem extend_ne_nil (front : List Char) (args : List (List Char)) : extend front args ≠ [] := by
  cases args <;> simp [extend]

/-- An open argument is an argument of the rest of the line, even if nothing is added to it. -/
theorem scan_ne_nil {s : Scan} (hs : s ≠ .between) (line : List Char) : scan s line ≠ [] := by
  cases line with
  | nil => cases s <;> simp_all [Scan.rest]
  | cons c line =>
    simp only [scan]
    split
    · exact absurd ‹_› (Scan.read_ne_skip hs c)
    · simp
    · exact extend_ne_nil _ _

/-! ## Cutting a line -/

theorem extend_nil_left {args : List (List Char)} (h : args ≠ []) : extend [] args = args := by
  cases args with
  | nil => exact absurd rfl h
  | cons arg args => rfl

theorem extend_append_right (front : List Char) {args : List (List Char)} (h : args ≠ [])
    (more : List (List Char)) : extend front (args ++ more) = extend front args ++ more := by
  cases args with
  | nil => exact absurd rfl h
  | cons arg args => rfl

/-- **A line falls apart at a separator outside quotes.** -/
theorem scan_append_separator {c : Char} (h : isSeparator c = true) (line : List Char) :
    ∀ (text : List Char) (s : Scan), (s.after text).isQuoted = false →
      scan s (text ++ c :: line) = scan s text ++ splitChars line
  | [], s, hs => scan_separator hs h line
  | d :: text, s, hs => by
    simp only [Scan.after_cons, Scan.next] at hs
    simp only [List.cons_append, scan]
    cases hr : s.read d with
    | skip =>
      rw [hr] at hs
      exact scan_append_separator h line text _ hs
    | finish written =>
      rw [hr] at hs
      exact congrArg (written :: ·) (scan_append_separator h line text _ hs)
    | keep written s' =>
      rw [hr] at hs
      have hne : scan s' text ≠ [] := scan_ne_nil (Scan.ne_between_of_read hr) text
      simp only [scan_append_separator h line text _ hs, extend_append_right _ hne]

/-! ## Reading within one argument -/

/-- `s.Writes text written s'`: a scan that stands at `s` reads `text` as part of one argument,
adds `written` to it and then stands at `s'`. -/
inductive Scan.Writes : Scan → List Char → List Char → Scan → Prop
  | nil (s : Scan) : s.Writes [] [] s
  | cons {s s₁ s₂ : Scan} {c : Char} {text front written : List Char} :
      s.read c = .keep front s₁ → s₁.Writes text written s₂ →
      s.Writes (c :: text) (front ++ written) s₂

namespace Scan.Writes

variable {s s₁ s₂ : Scan} {text more written written' : List Char}

/-- A single character. -/
theorem single {c : Char} (h : s.read c = .keep written s₁) : s.Writes [c] written s₁ := by
  have := cons h (nil s₁)
  rwa [List.append_nil] at this

theorem append (h : s.Writes text written s₁) (h' : s₁.Writes more written' s₂) :
    s.Writes (text ++ more) (written ++ written') s₂ := by
  induction h with
  | nil => exact h'
  | cons hr _ ih =>
    rw [List.cons_append, List.append_assoc]
    exact cons hr (ih h')

theorem after_eq (h : s.Writes text written s₁) : s.after text = s₁ := by
  induction h with
  | nil => rfl
  | cons hr _ ih => rw [after_cons, next, hr, ih]

/-- **What is written goes in front of the argument that the rest of the line continues.** -/
theorem scan_append (h : s.Writes text written s₁) (hs : s₁ ≠ .between) (line : List Char) :
    scan s (text ++ line) = extend written (scan s₁ line) := by
  induction h with
  | nil => rw [List.nil_append, extend_nil_left (scan_ne_nil hs line)]
  | cons hr _ ih => rw [List.cons_append, scan, hr, extend_append, ← ih hs]

end Scan.Writes

end Clinker.CommandLine

import Clinker.Text.Space
import Mathlib.Data.List.DropRight

/-!
# Trimming

Dropping characters at the end is the library's `List.rdropWhile`. Trimming leaves nothing exactly
of a text that is white space throughout, and trimming again changes nothing. A text that white
space neither begins nor ends (`Trimmed`) is left as it is.
-/

namespace Clinker.Text

theorem dropEndWhile_eq_rdropWhile (p : Char → Bool) (cs : List Char) :
    dropEndWhile p cs = cs.rdropWhile p := rfl

theorem dropEndWhile_eq_nil_iff {p : Char → Bool} {cs : List Char} :
    dropEndWhile p cs = [] ↔ ∀ c ∈ cs, p c = true :=
  List.rdropWhile_eq_nil_iff

/-- What is dropped at the end of the second part leaves the first part alone. -/
theorem dropEndWhile_append_of_ne {p : Char → Bool} {front back : List Char}
    (h : dropEndWhile p back ≠ []) :
    dropEndWhile p (front ++ back) = front ++ dropEndWhile p back := by
  have hrest : back.reverse.dropWhile p ≠ [] := by simpa [dropEndWhile] using h
  simp [dropEndWhile, List.dropWhile_append, hrest]

theorem dropEndWhile_append_of_forall {p : Char → Bool} {back : List Char}
    (h : ∀ c ∈ back, p c = true) (front : List Char) :
    dropEndWhile p (front ++ back) = dropEndWhile p front := by
  rw [dropEndWhile, List.reverse_append, List.dropWhile_append_of_pos]
  · rfl
  · intro c hc
    exact h c (List.mem_reverse.1 hc)

theorem dropEndWhile_of_getLast? {p : Char → Bool} {cs : List Char}
    (h : ∀ c ∈ cs.getLast?, p c = false) : dropEndWhile p cs = cs := by
  rw [dropEndWhile_eq_rdropWhile, List.rdropWhile_eq_self_iff]
  intro hne
  rw [Bool.not_eq_true]
  exact h _ (List.getLast?_eq_some_getLast hne)

/-- What is left does not end in what may be dropped. -/
theorem getLast?_dropEndWhile (p : Char → Bool) (cs : List Char) :
    ∀ c ∈ (dropEndWhile p cs).getLast?, p c = false := by
  intro c hc
  have hne : dropEndWhile p cs ≠ [] := by
    intro hnil
    rw [hnil] at hc
    cases hc
  rw [List.getLast?_eq_some_getLast hne, Option.mem_some] at hc
  rw [← hc, ← Bool.not_eq_true]
  exact List.rdropWhile_last_not p cs hne

/-- What the second part loses at its end does not reach into a first part that may not be
dropped. -/
theorem dropEndWhile_append {p : Char → Bool} {front : List Char}
    (h : ∀ c ∈ front.getLast?, p c = false) (back : List Char) :
    dropEndWhile p (front ++ back) = front ++ dropEndWhile p back := by
  by_cases hback : dropEndWhile p back = []
  · rw [dropEndWhile_append_of_forall (dropEndWhile_eq_nil_iff.1 hback),
      dropEndWhile_of_getLast? h, hback, List.append_nil]
  · exact dropEndWhile_append_of_ne hback

theorem dropEndWhile_map {p : Char → Bool} {f : Char → Char} (h : ∀ c, p (f c) = p c)
    (cs : List Char) : dropEndWhile p (cs.map f) = (dropEndWhile p cs).map f := by
  have hcomp : p ∘ f = p := funext h
  simp only [dropEndWhile, ← List.map_reverse, List.dropWhile_map, hcomp]

theorem isBlank_iff {s : String} : isBlank s = true ↔ ∀ c ∈ s.toList, isSpace c = true :=
  List.all_eq_true

theorem trimStartChars_eq_nil_iff {cs : List Char} :
    trimStartChars cs = [] ↔ ∀ c ∈ cs, isSpace c = true :=
  List.dropWhile_eq_nil_iff

/-- **Trimming leaves nothing of white space only.** -/
theorem trimChars_eq_nil_iff {cs : List Char} :
    trimChars cs = [] ↔ ∀ c ∈ cs, isSpace c = true := by
  rw [trimChars, trimEndChars, dropEndWhile_eq_nil_iff]
  constructor
  · intro h
    rw [← trimStartChars_eq_nil_iff]
    by_contra hne
    -- What is left begins with a character that is no white space.
    have hhead : isSpace ((trimStartChars cs).head hne) = false :=
      List.head_dropWhile_not isSpace hne
    rw [h _ (List.head_mem hne)] at hhead
    cases hhead
  · intro h c hc
    exact h c ((List.dropWhile_sublist _).subset hc)

/-- Trimming stops at what is no white space. -/
theorem trimStartChars_append_cons {c : Char} (h : isSpace c = false) (cs rest : List Char) :
    trimStartChars (cs ++ c :: rest) = trimStartChars cs ++ c :: rest := by
  rw [trimStartChars, List.dropWhile_append, List.dropWhile_cons_of_neg (by simp [h]),
    trimStartChars]
  split
  · next hempty => rw [List.isEmpty_iff.1 hempty, List.nil_append]
  · rfl

theorem trimStartChars_trimChars (cs : List Char) :
    trimStartChars (trimChars cs) = trimChars cs := by
  obtain ⟨tail, htail⟩ := List.rdropWhile_prefix isSpace (l := trimStartChars cs)
  change trimChars cs ++ tail = trimStartChars cs at htail
  cases htrim : trimChars cs with
  | nil => rfl
  | cons c rest =>
    -- The first character left is the first one that is no white space.
    have hc : isSpace c = false := by
      have hstart : cs.dropWhile isSpace = c :: (rest ++ tail) := by
        rw [← List.cons_append, ← htrim, htail, trimStartChars]
      have hne : cs.dropWhile isSpace ≠ [] := by rw [hstart]; exact List.cons_ne_nil _ _
      have hhead := List.head_dropWhile_not isSpace hne
      simpa only [hstart, List.head_cons] using hhead
    rw [trimStartChars, List.dropWhile_cons_of_neg (by simp [hc])]

/-- **Trimming twice is trimming once.** -/
theorem trimChars_trimChars (cs : List Char) : trimChars (trimChars cs) = trimChars cs := by
  rw [trimChars, trimStartChars_trimChars, trimChars, trimEndChars, trimEndChars,
    dropEndWhile_eq_rdropWhile, dropEndWhile_eq_rdropWhile]
  exact List.rdropWhile_idempotent isSpace _

/-- Trimming does not see a change of characters that leaves white space alone. -/
theorem trimChars_map {f : Char → Char} (h : ∀ c, isSpace (f c) = isSpace c) (cs : List Char) :
    trimChars (cs.map f) = (trimChars cs).map f := by
  have hcomp : isSpace ∘ f = isSpace := funext h
  rw [trimChars, trimChars, trimStartChars, List.dropWhile_map, hcomp]
  exact dropEndWhile_map h _

/-! ## Trimmed texts -/

/-- White space neither begins nor ends the text. -/
def Trimmed (cs : List Char) : Prop :=
  (∀ c ∈ cs.head?, isSpace c = false) ∧ ∀ c ∈ cs.getLast?, isSpace c = false

instance (cs : List Char) : Decidable (Trimmed cs) :=
  decidable_of_iff (cs.head?.all (!isSpace ·) = true ∧ cs.getLast?.all (!isSpace ·) = true)
    (by simp [Trimmed, Option.all_eq_true])

theorem trimStartChars_of_head? {cs : List Char} (h : ∀ c ∈ cs.head?, isSpace c = false) :
    trimStartChars cs = cs := by
  cases cs with
  | nil => rfl
  | cons c cs => exact List.dropWhile_cons_of_neg (by simp [h c rfl])

theorem Trimmed.trimChars_eq {cs : List Char} (h : Trimmed cs) : trimChars cs = cs := by
  rw [trimChars, trimStartChars_of_head? h.1, trimEndChars, dropEndWhile_of_getLast? h.2]

/-- What follows a text of which nothing is trimmed is trimmed at its end only. -/
theorem Trimmed.trimChars_append {cs : List Char} (h : Trimmed cs) (hne : cs ≠ [])
    (rest : List Char) : trimChars (cs ++ rest) = cs ++ trimEndChars rest := by
  have hstart : ∀ c ∈ (cs ++ rest).head?, isSpace c = false := by
    rw [List.head?_append_of_ne_nil cs hne]
    exact h.1
  rw [trimChars, trimStartChars_of_head? hstart]
  exact dropEndWhile_append h.2 rest

/-- **What is left of a text is trimmed.** -/
theorem trimmed_trimChars (cs : List Char) : Trimmed (trimChars cs) := by
  constructor
  · have hstart := trimStartChars_trimChars cs
    cases htrim : trimChars cs with
    | nil => simp
    | cons c rest =>
      rw [htrim, trimStartChars, List.dropWhile_eq_self_iff] at hstart
      simpa using hstart (Nat.succ_pos _)
  · exact getLast?_dropEndWhile isSpace _

theorem trimmed_map_iff {f : Char → Char} (h : ∀ c, isSpace (f c) = isSpace c) {cs : List Char} :
    Trimmed (cs.map f) ↔ Trimmed cs := by
  simp [Trimmed, h]

theorem Trimmed.append {cs back : List Char} (h : Trimmed cs) (hne : cs ≠ [])
    (hback : ∀ c ∈ back, isSpace c = false) : Trimmed (cs ++ back) := by
  constructor
  · rw [List.head?_append_of_ne_nil cs hne]
    exact h.1
  · intro c hc
    rw [List.getLast?_append] at hc
    rcases Option.or_eq_some_iff.1 hc with hlast | ⟨-, hlast⟩
    · exact hback c (List.mem_of_getLast? hlast)
    · exact h.2 c hlast

theorem Trimmed.not_blank {cs : List Char} (h : Trimmed cs) (hne : cs ≠ []) :
    ¬ ∀ c ∈ cs, isSpace c = true := by
  rwa [← trimChars_eq_nil_iff, h.trimChars_eq]

/-- White space around a trimmed text is all that trimming takes away. -/
theorem Trimmed.trimChars_between {cs : List Char} (h : Trimmed cs) (hne : cs ≠ [])
    {before after : List Char} (hbefore : ∀ c ∈ before, isSpace c = true)
    (hafter : ∀ c ∈ after, isSpace c = true) : trimChars (before ++ cs ++ after) = cs := by
  have hend : trimEndChars after = [] := dropEndWhile_eq_nil_iff.2 hafter
  have hstart : trimChars (before ++ (cs ++ after)) = trimChars (cs ++ after) := by
    rw [trimChars, trimStartChars, List.dropWhile_append_of_pos hbefore]
    rfl
  rw [List.append_assoc, hstart, h.trimChars_append hne, hend, List.append_nil]

/-- A text is what is left of it between white space. -/
theorem exists_between_trimChars (cs : List Char) : ∃ before after,
    (∀ c ∈ before, isSpace c = true) ∧ (∀ c ∈ after, isSpace c = true) ∧
      cs = before ++ trimChars cs ++ after := by
  refine ⟨cs.takeWhile isSpace, (trimStartChars cs).rtakeWhile isSpace,
    fun c hc => List.mem_takeWhile_imp hc, fun c hc => List.mem_rtakeWhile_imp hc, ?_⟩
  have hend : trimChars cs ++ (trimStartChars cs).rtakeWhile isSpace = trimStartChars cs :=
    List.rdropWhile_append_rtakeWhile
  rw [List.append_assoc, hend]
  exact List.takeWhile_append_dropWhile.symm

end Clinker.Text

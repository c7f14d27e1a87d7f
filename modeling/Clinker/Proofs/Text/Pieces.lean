import Clinker.Text.Basic

/-!
# Pieces of a text

`Text.pieces` is the library's `List.splitOnP`, from which it takes its laws. `Text.cutAt` cuts at
the first separator only.
-/

namespace Clinker.Text

variable {p : Char → Bool}

/-- **Cutting into pieces is splitting a list.** -/
theorem pieces_eq_splitOnP (cs : List Char) : pieces p cs = cs.splitOnP p := by
  induction cs with
  | nil => rfl
  | cons c cs ih =>
    obtain ⟨w, ws, hw⟩ := List.exists_cons_of_ne_nil (List.splitOnP_ne_nil p cs)
    rw [pieces, ih, List.splitOnP_cons_eq_if_modifyHead, hw, List.modifyHead_cons]

theorem exists_pieces_eq_cons (p : Char → Bool) (cs : List Char) :
    ∃ w ws, pieces p cs = w :: ws := by
  rw [pieces_eq_splitOnP]
  exact List.exists_cons_of_ne_nil (List.splitOnP_ne_nil p cs)

theorem pieces_cons_of_pos {c : Char} (h : p c = true) (cs : List Char) :
    pieces p (c :: cs) = [] :: pieces p cs := by
  rw [pieces, if_pos h]

theorem pieces_cons_of_neg {c : Char} (h : p c = false) {cs w : List Char}
    {ws : List (List Char)} (hcs : pieces p cs = w :: ws) :
    pieces p (c :: cs) = (c :: w) :: ws := by
  rw [pieces, if_neg (by simp [h]), hcs]

theorem pieces_of_forall_not {cs : List Char} (h : ∀ c ∈ cs, p c = false) :
    pieces p cs = [cs] := by
  rw [pieces_eq_splitOnP, List.splitOnP_eq_singleton h]

/-! At the occurrences of one character. -/

theorem beq_eq_false_of_not_mem {sep : Char} {cs : List Char} (h : sep ∉ cs) :
    ∀ c ∈ cs, (c == sep) = false :=
  fun _ hc => beq_false_of_ne (ne_of_mem_of_not_mem hc h)

theorem pieces_of_not_mem {sep : Char} {cs : List Char} (h : sep ∉ cs) :
    pieces (· == sep) cs = [cs] :=
  pieces_of_forall_not (beq_eq_false_of_not_mem h)

theorem pieces_append_cons_of_not_mem {sep : Char} {cs : List Char} (h : sep ∉ cs)
    (rest : List Char) : pieces (· == sep) (cs ++ sep :: rest) = cs :: pieces (· == sep) rest := by
  rw [pieces_eq_splitOnP, pieces_eq_splitOnP]
  exact List.splitOnP_append_cons_of_forall_mem (beq_eq_false_of_not_mem h) sep
    (beq_self_eq_true sep) rest

/-- **A separator comes between the pieces on its two sides.** -/
theorem pieces_append_cons (sep : Char) (cs rest : List Char) :
    pieces (· == sep) (cs ++ sep :: rest) = pieces (· == sep) cs ++ pieces (· == sep) rest := by
  simp only [pieces_eq_splitOnP]
  exact List.splitOnP_append_cons cs rest (beq_self_eq_true sep)

/-- What is cut out of a text consists of characters of the text that are no separators. -/
theorem mem_of_mem_pieces {cs : List Char} :
    ∀ w ∈ pieces p cs, ∀ c ∈ w, c ∈ cs ∧ p c = false := by
  induction cs with
  | nil => simp [pieces]
  | cons d cs ih =>
    cases hd : p d with
    | true =>
      rw [pieces_cons_of_pos hd, List.forall_mem_cons]
      refine ⟨by simp, fun w hw c hc => ?_⟩
      exact ⟨List.mem_cons_of_mem _ (ih w hw c hc).1, (ih w hw c hc).2⟩
    | false =>
      obtain ⟨v, vs, hv⟩ := exists_pieces_eq_cons p cs
      rw [hv, List.forall_mem_cons] at ih
      rw [pieces_cons_of_neg hd hv, List.forall_mem_cons, List.forall_mem_cons]
      refine ⟨⟨⟨List.mem_cons_self, hd⟩, fun c hc => ?_⟩, fun w hw c hc => ?_⟩
      · exact ⟨List.mem_cons_of_mem _ (ih.1 c hc).1, (ih.1 c hc).2⟩
      · exact ⟨List.mem_cons_of_mem _ (ih.2 w hw c hc).1, (ih.2 w hw c hc).2⟩

/-! ## The first pieces -/

theorem intercalate_append_cons (sep : Char) (piece : List Char) (pieces : List (List Char)) :
    ∀ {front : List (List Char)}, front ≠ [] →
      [sep].intercalate (front ++ piece :: pieces) =
        [sep].intercalate front ++ sep :: [sep].intercalate (piece :: pieces)
  | [], h => absurd rfl h
  | [first], _ => by simp
  | first :: second :: front, _ => by
    have ih := intercalate_append_cons sep piece pieces (List.cons_ne_nil second front)
    simp only [List.cons_append, List.intercalate_cons_cons, List.append_assoc] at ih ⊢
    rw [ih]

/-- **A text with the first pieces of another one continues it after a separator.** -/
theorem splitOn_prefix_iff {sep : Char} {root path : List Char} :
    root.splitOn sep <+: path.splitOn sep ↔ path = root ∨ ∃ rest, path = root ++ sep :: rest := by
  constructor
  · rintro ⟨more, hmore⟩
    have hpath : [sep].intercalate (path.splitOn sep) = path := List.intercalate_splitOn sep
    have hroot : [sep].intercalate (root.splitOn sep) = root := List.intercalate_splitOn sep
    rw [← hmore] at hpath
    cases more with
    | nil =>
      rw [List.append_nil, hroot] at hpath
      exact .inl hpath.symm
    | cons piece pieces =>
      rw [intercalate_append_cons sep piece pieces (List.splitOn_ne_nil sep root), hroot] at hpath
      exact .inr ⟨_, hpath.symm⟩
  · rintro (rfl | ⟨rest, rfl⟩)
    · exact List.prefix_rfl
    · rw [List.splitOn_append_cons_self]
      exact List.prefix_append _ _

/-! ## One cut -/

theorem cutAt_append_cons {sep : Char} {front : List Char} (h : sep ∉ front) (back : List Char) :
    cutAt sep (front ++ sep :: back) = some (front, back) := by
  induction front with
  | nil => simp [cutAt]
  | cons c front ih =>
    obtain ⟨hc, hfront⟩ : sep ≠ c ∧ sep ∉ front := by simpa using h
    have hne : (c == sep) = false := by simpa using Ne.symm hc
    simp [cutAt, hne, ih hfront]

theorem cutAt_eq_none {sep : Char} {cs : List Char} (h : sep ∉ cs) : cutAt sep cs = none := by
  induction cs with
  | nil => rfl
  | cons c cs ih =>
    obtain ⟨hc, hcs⟩ : sep ≠ c ∧ sep ∉ cs := by simpa using h
    have hne : (c == sep) = false := by simpa using Ne.symm hc
    simp [cutAt, hne, ih hcs]

end Clinker.Text

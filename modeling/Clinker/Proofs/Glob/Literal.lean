import Clinker.Glob.Pattern
import Clinker.Proofs.Basic
import Clinker.Proofs.Text.Pieces

/-!
# Texts without wildcards as patterns

A text in which no character starts a wildcard stands for itself: every element of it is one of its
characters (`parse_literal`), and every component of it a name (`ofText?_literal`). In front of
another pattern it leaves that pattern what it is (`isSome_ofText?_append`).
-/

namespace Clinker.Glob

open Clinker.Text (pieces)

variable {cs : List Char} {c : Char} {text : String}

/-- Characters that start a wildcard. -/
def wildcards : List Char := ['*', '?', '[']

/-- No character starts a wildcard. -/
def Literal (cs : List Char) : Prop := ∀ c ∈ cs, c ∉ wildcards

instance (cs : List Char) : Decidable (Literal cs) :=
  decidable_of_iff (cs.all fun c => !wildcards.contains c) (by simp [Literal])

theorem literal_cons : Literal (c :: cs) ↔ c ∉ wildcards ∧ Literal cs := List.forall_mem_cons

theorem literal_append {ds : List Char} : Literal (cs ++ ds) ↔ Literal cs ∧ Literal ds :=
  List.forall_mem_append

/-! ## Elements -/

theorem parse_cons (h : c ∉ wildcards) (boundary : Bool) (cs : List Char) :
    parse boundary (c :: cs) = (parse (c == '/') cs).map (.literal c :: ·) := by
  simp only [wildcards, List.mem_cons, List.not_mem_nil, or_false, not_or] at h
  obtain ⟨hstar, hany, hbracket⟩ := h
  rw [parse] <;> simp_all

theorem parse_literal (h : Literal cs) (boundary : Bool) :
    parse boundary cs = some (cs.map .literal) := by
  induction cs generalizing boundary with
  | nil => simp [parse]
  | cons c cs ih =>
    obtain ⟨hc, hcs⟩ := literal_cons.1 h
    rw [parse_cons hc, ih hcs, Option.map_some, List.map_cons]

/-- **A literal text leaves what follows a separator a pattern, or none.** -/
theorem isSome_parse_append (h : Literal cs) (boundary : Bool) (rest : List Char) :
    (parse boundary (cs ++ '/' :: rest)).isSome = (parse true rest).isSome := by
  induction cs generalizing boundary with
  | nil => rw [List.nil_append, parse_cons (by decide), Option.isSome_map, beq_self_eq_true]
  | cons c cs ih =>
    obtain ⟨hc, hcs⟩ := literal_cons.1 h
    rw [List.cons_append, parse_cons hc, Option.isSome_map, ih hcs]

/-! ## Components -/

theorem exactName?_literal (cs : List Char) : exactName? (cs.map .literal) = some cs := by
  induction cs with
  | nil => rfl
  | cons c cs ih => rw [List.map_cons, exactName?, ih, Option.map_some]

theorem pieceOf_literal (cs : List Char) :
    pieceOf (cs.map .literal) = .exact (String.ofList cs) := by
  have hne : (cs.map Token.literal == [.anyDepth]) = false := by
    rw [beq_eq_false_iff_ne]
    intro heq
    cases cs <;> simp at heq
  rw [pieceOf, hne, if_neg Bool.false_ne_true, exactName?_literal]

theorem mergeDepths_exact (names : List String) :
    mergeDepths (names.map .exact) = names.map .exact := by
  induction names with
  | nil => rfl
  | cons name names ih =>
    rw [List.map_cons, mergeDepths, ih]
    simp

/-- The components that a text names, one after another. -/
def namesIn (cs : List Char) : List String := (pieces (· == '/') cs).map String.ofList

theorem namesIn_of_not_mem (h : '/' ∉ cs) : namesIn cs = [String.ofList cs] := by
  rw [namesIn, Text.pieces_of_not_mem h]
  rfl

theorem namesIn_append_cons (h : '/' ∉ cs) (rest : List Char) :
    namesIn (cs ++ '/' :: rest) = String.ofList cs :: namesIn rest := by
  rw [namesIn, Text.pieces_append_cons_of_not_mem h]
  rfl

/-- Only a separator at the end makes the last component empty. -/
theorem getLast?_pieces_ne {cs : List Char} (hne : cs ≠ []) (hend : cs.getLast? ≠ some '/') :
    (pieces (· == '/') cs).getLast? ≠ some [] := by
  by_cases hmem : '/' ∈ cs
  · obtain ⟨name, rest, hcs, hname⟩ := List.eq_append_cons_of_mem hmem
    rw [hcs] at hend ⊢
    have hrestEnd : rest.getLast? ≠ some '/' := by
      intro heq
      obtain ⟨before, rfl⟩ := List.getLast?_eq_some_iff.1 heq
      exact hend (List.getLast?_eq_some_iff.2 ⟨name ++ '/' :: before, by simp⟩)
    have hrest : rest ≠ [] := by
      rintro rfl
      exact hend List.getLast?_concat
    obtain ⟨first, more, hcons⟩ := Text.exists_pieces_eq_cons (· == '/') rest
    rw [Text.pieces_append_cons_of_not_mem hname, hcons, List.getLast?_cons_cons, ← hcons]
    exact getLast?_pieces_ne hrest hrestEnd
  · rw [Text.pieces_of_not_mem hmem, List.getLast?_singleton]
    exact fun heq => hne (Option.some.inj heq)
termination_by cs.length
decreasing_by simp only [hcs, List.length_append, List.length_cons]; omega

/-! ## Patterns -/

/-- The text of a pattern after the root, if it starts there. -/
def belowRoot (cs : List Char) : List Char := if cs.head? == some '/' then cs.drop 1 else cs

/-- The texts that are read as components: none follows a separator at the end. -/
def componentTexts (cs : List Char) : List (List Char) :=
  if (pieces (· == '/') cs).getLast? == some [] && cs != [] then (pieces (· == '/') cs).dropLast
  else pieces (· == '/') cs

/-- **What a pattern is read as.** -/
theorem ofText?_eq (text : String) : Pattern.ofText? text = (parse true text.toList).bind fun _ =>
    ((componentTexts (belowRoot text.toList)).mapM fun c => (parse true c).map pieceOf).map
      fun found => ⟨text.toList.head? == some '/', mergeDepths found,
        text.toList.getLast? == some '/'⟩ := by
  refine congrArg (Option.bind _) (funext fun _ => ?_)
  rw [Option.map_eq_bind]
  rfl

theorem wantsDirectory_of_ofText? {pattern : Pattern} (h : Pattern.ofText? text = some pattern) :
    pattern.wantsDirectory = (text.toList.getLast? == some '/') := by
  rw [ofText?_eq, Option.bind_eq_some_iff] at h
  obtain ⟨-, -, h⟩ := h
  obtain ⟨found, -, rfl⟩ := Option.map_eq_some_iff.1 h
  rfl

theorem belowRoot_suffix (cs : List Char) : belowRoot cs <:+ cs := by
  unfold belowRoot
  split
  · exact List.drop_suffix 1 cs
  · exact List.suffix_rfl

/-- The root in front makes no component that is not empty. -/
theorem forall_pieces_belowRoot {P : List Char → Prop} (hnil : P []) :
    (∀ piece ∈ pieces (· == '/') (belowRoot cs), P piece) ↔
      ∀ piece ∈ pieces (· == '/') cs, P piece := by
  unfold belowRoot
  split
  · next hroot =>
    obtain ⟨rest, rfl⟩ := List.head?_eq_some_iff.1 (eq_of_beq hroot)
    rw [List.drop_one, List.tail_cons, Text.pieces_cons_of_pos rfl, List.forall_mem_cons]
    exact (and_iff_right hnil).symm
  · exact Iff.rfl

/-- Every text before, between and after separators is read as a component, unless it is empty. -/
theorem forall_componentTexts {P : List Char → Prop} (hnil : P []) :
    (∀ piece ∈ componentTexts cs, P piece) ↔ ∀ piece ∈ pieces (· == '/') cs, P piece := by
  unfold componentTexts
  split
  · next hlast =>
    rw [Bool.and_eq_true, beq_iff_eq] at hlast
    obtain ⟨before, hbefore⟩ := List.getLast?_eq_some_iff.1 hlast.1
    rw [hbefore, List.dropLast_concat, List.forall_mem_append, List.forall_mem_singleton]
    exact (and_iff_left hnil).symm
  · exact Iff.rfl

/-- **When a text is a pattern**: it is one as a whole, and so are its components. -/
theorem isSome_ofText?_iff : (Pattern.ofText? text).isSome = true ↔
    (parse true text.toList).isSome = true ∧
      ∀ piece ∈ pieces (· == '/') text.toList, (parse true piece).isSome = true := by
  have hnil : (parse true []).isSome = true := by simp [parse]
  rw [ofText?_eq, ← forall_pieces_belowRoot hnil, ← forall_componentTexts hnil]
  cases parse true text.toList with
  | none => simp
  | some tokens => simp [isSome_mapM]

/-- **A literal text in front leaves a pattern a pattern.** -/
theorem isSome_ofText?_append (h : Literal cs) {full : String}
    (hfull : full.toList = cs ++ '/' :: text.toList)
    (htext : (Pattern.ofText? text).isSome = true) : (Pattern.ofText? full).isSome = true := by
  rw [isSome_ofText?_iff] at *
  rw [hfull, isSome_parse_append h, Text.pieces_append_cons, List.forall_mem_append]
  refine ⟨htext.1, ?_, htext.2⟩
  intro piece hpiece
  have hliteral : Literal piece := fun c hc => h c (Text.mem_of_mem_pieces piece hpiece c hc).1
  rw [parse_literal hliteral]
  rfl

/-- **A literal text asks for the names in it**, one below the other. -/
theorem ofText?_literal (h : Literal text.toList) (hend : text.toList.getLast? ≠ some '/') :
    Pattern.ofText? text = some ⟨text.toList.head? == some '/',
      (namesIn (belowRoot text.toList)).map .exact, false⟩ := by
  have hcomponents : componentTexts (belowRoot text.toList) =
      pieces (· == '/') (belowRoot text.toList) := by
    refine if_neg fun hlast => ?_
    rw [Bool.and_eq_true, bne_iff_ne, beq_iff_eq] at hlast
    refine getLast?_pieces_ne hlast.2 ?_ hlast.1
    intro hsep
    obtain ⟨before, hbefore⟩ := belowRoot_suffix text.toList
    obtain ⟨name, hname⟩ := List.getLast?_eq_some_iff.1 hsep
    exact hend (List.getLast?_eq_some_iff.2 ⟨before ++ name, by rw [← hbefore, hname]; simp⟩)
  have hread : ∀ piece ∈ pieces (· == '/') (belowRoot text.toList),
      (parse true piece).map pieceOf = some (.exact (String.ofList piece)) := by
    intro piece hpiece
    have hliteral : Literal piece := fun c hc =>
      h c ((belowRoot_suffix _).subset (Text.mem_of_mem_pieces piece hpiece c hc).1)
    rw [parse_literal hliteral, Option.map_some, pieceOf_literal]
  have hnotEnd : (text.toList.getLast? == some '/') = false := beq_eq_false_iff_ne.2 hend
  rw [ofText?_eq, parse_literal h, Option.bind_some, hcomponents, mapM_eq_pure hread, hnotEnd,
    ← mergeDepths_exact, namesIn, List.map_map]
  rfl

end Clinker.Glob

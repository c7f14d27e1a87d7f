import Clinker.Dependency.Exclusions
import Clinker.Proofs.Dependency.NormalForm
import Clinker.Proofs.Text.Pieces

/-!
# Exclusion by components

Whether a path is excluded is decided on characters: the form of a directory, then a separator or
nothing. Said in components, the components of the directory are the first components of the path
(`piecesAt_prefix_iff`). A set of exclusions is only ever asked this of its directories, so it
excludes what some directory given to it covers (`excludes_ofRoots_iff`), and neither their order
nor how often one is given matters.
-/

namespace Clinker.Dependency

/-! ## Characters and components -/

theorem liesUnder_iff {root path : List Char} :
    liesUnder root path = true ↔ path = root ∨ ∃ rest, path = root ++ '/' :: rest := by
  induction root generalizing path with
  | nil => cases path <;> simp [liesUnder]
  | cons r root ih =>
    cases path with
    | nil => simp [liesUnder]
    | cons c path =>
      simp only [liesUnder, Bool.and_eq_true, beq_iff_eq, ih, List.cons_append, List.cons.injEq]
      constructor
      · rintro ⟨rfl, rfl | ⟨rest, rfl⟩⟩
        · exact .inl ⟨rfl, rfl⟩
        · exact .inr ⟨rest, rfl, rfl⟩
      · rintro (⟨rfl, rfl⟩ | ⟨rest, rfl, rfl⟩)
        · exact ⟨rfl, .inl rfl⟩
        · exact ⟨rfl, .inr ⟨rest, rfl⟩⟩

theorem piecesAt_prefix_iff {root form : String} :
    Text.piecesAt '/' root <+: Text.piecesAt '/' form ↔
      liesUnder root.toList form.toList = true := by
  have hinj : Function.Injective String.ofList := fun _ _ h => String.ofList_injective h
  rw [Text.piecesAt, Text.piecesAt, List.prefix_map_iff_of_injective hinj,
    Text.pieces_eq_splitOnP, Text.pieces_eq_splitOnP, liesUnder_iff]
  exact Text.splitOn_prefix_iff

/-! ## Sets of directories -/

namespace Exclusions

theorem mem_roots_add {x : Exclusions} {root : Path} {form : String} :
    form ∈ (x.add root).roots ↔
      form ∈ x.roots ∨ form = normalForm root.text ∧ form ≠ "" := by
  unfold add
  simp only [Bool.or_eq_true, String.isEmpty_iff, List.contains_iff_mem]
  split
  · next h =>
    refine ⟨.inl, ?_⟩
    rintro (hmem | ⟨rfl, hne⟩)
    · exact hmem
    · exact h.resolve_left hne
  · next h =>
    rw [not_or] at h
    rw [List.mem_append, List.mem_singleton]
    refine or_congr_right ⟨fun hform => ⟨hform, ?_⟩, And.left⟩
    rw [hform]
    exact h.1

theorem mem_roots_foldl_add {x : Exclusions} {roots : List Path} {form : String} :
    form ∈ (roots.foldl add x).roots ↔
      form ∈ x.roots ∨ ∃ root ∈ roots, form = normalForm root.text ∧ form ≠ "" := by
  induction roots generalizing x with
  | nil => simp
  | cons root roots ih =>
    rw [List.foldl_cons, ih, mem_roots_add, or_assoc]
    simp only [List.mem_cons, exists_eq_or_imp]

theorem mem_roots_ofRoots {roots : List Path} {form : String} :
    form ∈ (ofRoots roots).roots ↔ ∃ root ∈ roots, form = normalForm root.text ∧ form ≠ "" := by
  simp [ofRoots, mem_roots_foldl_add, empty]

end Exclusions

/-- A directory covers a form when it is not blank and its components are the first components of
the form. -/
def Covers (root : Path) (form : String) : Prop :=
  Text.isBlank root.text = false ∧
    Text.piecesAt '/' (normalForm root.text) <+: Text.piecesAt '/' form

/-- **What some directory covers is excluded, and nothing else is.** -/
theorem excludes_ofRoots_iff {roots : List Path} {form : String} :
    (Exclusions.ofRoots roots).excludes form = true ↔ ∃ root ∈ roots, Covers root form := by
  simp only [Exclusions.excludes, List.any_eq_true, Exclusions.mem_roots_ofRoots]
  constructor
  · rintro ⟨_, ⟨root, hroot, rfl, hne⟩, hunder⟩
    refine ⟨root, hroot, ?_, piecesAt_prefix_iff.2 hunder⟩
    rw [← Bool.not_eq_true, ← normalForm_eq_empty_iff]
    exact hne
  · rintro ⟨root, hroot, hblank, hprefix⟩
    refine ⟨_, ⟨root, hroot, rfl, ?_⟩, piecesAt_prefix_iff.1 hprefix⟩
    rw [ne_eq, normalForm_eq_empty_iff, hblank]
    exact Bool.false_ne_true

/-- Exclusion does not depend on the order or the repetition of the directories. -/
theorem excludes_ofRoots_congr {roots roots' : List Path} (h : ∀ root, root ∈ roots' ↔ root ∈ roots)
    (form : String) :
    (Exclusions.ofRoots roots').excludes form = (Exclusions.ofRoots roots).excludes form := by
  rw [Bool.eq_iff_iff, excludes_ofRoots_iff, excludes_ofRoots_iff]
  simp only [h]

end Clinker.Dependency

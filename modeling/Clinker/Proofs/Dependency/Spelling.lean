import Clinker.Dependency.PathForm
import Clinker.Proofs.Dependency.Importing
import Clinker.Proofs.Text.Casing
import Clinker.Proofs.Text.Trimming

/-!
# Spellings of one path

Two spellings of a path differ in the case of ASCII letters and in which of the two separators
they use. Each step to the form for comparison either undoes such a change or does not see it, so
all spellings have one form (`Respelled.normalChars_eq`).
-/

namespace Clinker.Dependency

/-- A character without the differences between spellings. -/
def folded (c : Char) : Char := (slash c).toLower

/-- The two texts are spellings of one path. -/
def Respelled (a b : List Char) : Prop := a.map folded = b.map folded

instance (a b : List Char) : Decidable (Respelled a b) :=
  inferInstanceAs (Decidable (a.map folded = b.map folded))

theorem forwardSeparators_eq_map (cs : List Char) : forwardSeparators cs = cs.map slash := rfl

theorem forwardSeparators_append (cs ds : List Char) :
    forwardSeparators (cs ++ ds) = forwardSeparators cs ++ forwardSeparators ds :=
  List.map_append

theorem isSpace_slash (c : Char) : Text.isSpace (slash c) = Text.isSpace c := by
  unfold slash
  split
  · next h =>
    rw [beq_iff_eq] at h
    subst h
    decide
  · rfl

theorem isSpace_folded (c : Char) : Text.isSpace (folded c) = Text.isSpace c := by
  rw [folded, Text.isSpace_toLower, isSpace_slash]

theorem folded_ne_backslash (c : Char) : folded c ≠ '\\' := by
  have hlower := Text.toLower_congr (f := (· == '\\')) (by decide) (slash c)
  rw [← beq_eq_false_iff_ne, folded, hlower, beq_eq_false_iff_ne]
  exact slash_ne_backslash c

theorem slash_folded (c : Char) : slash (folded c) = folded c :=
  if_neg (by simpa using folded_ne_backslash c)

/-- The form of a path does not see the differences between spellings. -/
theorem normalChars_map_folded (cs : List Char) : normalChars (cs.map folded) = normalChars cs := by
  have hforward : forwardSeparators ((Text.trimChars cs).map folded) =
      (forwardSeparators (Text.trimChars cs)).map Char.toLower := by
    simp only [forwardSeparators_eq_map, List.map_map, Function.comp_def, slash_folded]
    rfl
  rw [normalChars, Text.trimChars_map isSpace_folded, hforward, Text.lowerChars_map_toLower,
    normalChars]

/-- **All spellings of a path have one form.** -/
theorem Respelled.normalChars_eq {a b : List Char} (h : Respelled a b) :
    normalChars a = normalChars b := by
  rw [← normalChars_map_folded, h, normalChars_map_folded]

end Clinker.Dependency

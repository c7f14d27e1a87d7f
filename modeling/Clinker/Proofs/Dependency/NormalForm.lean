import Clinker.Dependency.PathForm
import Clinker.Proofs.Text.Casing
import Clinker.Proofs.Text.Trimming

/-!
# When the form of a path is empty

Only white space is dropped from a path altogether: every later step that brings a path into the
form for comparison leaves something of what is there. So the form is empty exactly for a blank
path (`normalForm_eq_empty_iff`).
-/

namespace Clinker.Dependency

theorem dropEndSeparators_eq_nil_iff {cs : List Char} : dropEndSeparators cs = [] ↔ cs = [] := by
  unfold dropEndSeparators
  constructor
  · intro h
    simp only at h
    split at h
    · cases h
    · next hkeep =>
      by_contra hne
      exact hkeep (by simp [h, hne])
  · rintro rfl
    rfl

theorem normalChars_eq_nil_iff {cs : List Char} :
    normalChars cs = [] ↔ ∀ c ∈ cs, Text.isSpace c = true := by
  rw [normalChars, dropEndSeparators_eq_nil_iff, Text.lowerChars_eq_nil_iff, forwardSeparators,
    List.map_eq_nil_iff, Text.trimChars_eq_nil_iff]

/-- **A path has an empty form exactly when it is blank.** -/
theorem normalForm_eq_empty_iff {path : String} :
    normalForm path = "" ↔ Text.isBlank path = true := by
  rw [← String.toList_inj, toList_normalForm, String.toList_empty, normalChars_eq_nil_iff,
    Text.isBlank_iff]

end Clinker.Dependency

import Clinker.Proofs.Dependency.Spelling

/-!
# The form of a path in a folder

A text that ends neither in white space nor in a separator loses nothing at its end when it is
brought into the form for comparison (`IsClosed.normalChars_eq`). If such a name follows a
separator, its part of the form is the name in lower case with forward separators, whatever stands
before the separator (`IsClosed.normalChars_append_slash`): white space is dropped in front of the
whole path only, and lower case goes through a path component by component.
-/

namespace Clinker.Dependency

/-- The text ends in a character that is neither white space nor a separator. -/
def IsClosed (cs : List Char) : Prop :=
  ∃ front c, cs = front ++ [c] ∧ Text.isSpace c = false ∧ slash c ≠ '/'

theorem IsClosed.append_left {cs : List Char} (h : IsClosed cs) (front : List Char) :
    IsClosed (front ++ cs) := by
  obtain ⟨before, c, rfl, hspace, hslash⟩ := h
  exact ⟨front ++ before, c, (List.append_assoc ..).symm, hspace, hslash⟩

theorem dropEndSeparators_of_getLast? {cs : List Char} (h : ∀ c ∈ cs.getLast?, c ≠ '/') :
    dropEndSeparators cs = cs := by
  have hdrop : Text.dropEndWhile (· == '/') cs = cs :=
    Text.dropEndWhile_of_getLast? fun c hc => beq_false_of_ne (h c hc)
  simp [dropEndSeparators, hdrop]

/-- **In the form of a text that keeps its end** only white space in front of it is dropped. -/
theorem IsClosed.normalChars_eq {cs : List Char} (h : IsClosed cs) :
    normalChars cs = Text.lowerChars (forwardSeparators (Text.trimStartChars cs)) := by
  obtain ⟨front, c, rfl, hspace, hslash⟩ := h
  have hstart := Text.trimStartChars_append_cons hspace front []
  have htrim : Text.trimChars (front ++ [c]) = Text.trimStartChars (front ++ [c]) := by
    rw [Text.trimChars, Text.trimEndChars, hstart]
    exact Text.dropEndWhile_of_getLast? (by simpa using hspace)
  rw [normalChars, htrim, hstart, forwardSeparators_append]
  exact dropEndSeparators_of_getLast? (Text.getLast?_lowerChars_ne_slash hslash _)

/-- **The form of a path in a folder** is that of what stands before the separator, and what
follows it in lower case. -/
theorem IsClosed.normalChars_append_slash {name : List Char} (h : IsClosed name) (cs : List Char) :
    normalChars (cs ++ '/' :: name) =
      Text.lowerChars (forwardSeparators (Text.trimStartChars cs)) ++
        '/' :: Text.lowerChars (forwardSeparators name) := by
  have hclosed : IsClosed (cs ++ '/' :: name) := by
    rw [List.append_cons]
    exact h.append_left _
  have hslash : slash '/' = '/' := rfl
  rw [hclosed.normalChars_eq, Text.trimStartChars_append_cons (by decide),
    forwardSeparators_append, forwardSeparators_cons, hslash, Text.lowerChars_append_slash,
    Text.lowerFrom_slash]

end Clinker.Dependency

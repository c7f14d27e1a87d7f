import Mathlib.Data.List.Induction
import Mathlib.Data.List.Nodup

/-!
# What a history leaves

Variables and database entries follow one rule: what comes later replaces what came earlier under
the same key. So a history leaves, for each key, the last element that has it. `LastBy` says which
elements these are and `LastBefore` in which order they stand. The lemmas go by the last element of
the history, because that is how a history grows.
-/

namespace Clinker

variable {α κ : Type} {key : α → κ} {history : List α} {a b e : α}

/-- An element of a history after which none has the same key. -/
def LastBy (key : α → κ) (history : List α) (a : α) : Prop :=
  ∃ before after, history = before ++ a :: after ∧ ∀ later ∈ after, key later ≠ key a

/-- Two elements of a history after each of which none has the same key, the first one standing
before the second one. -/
def LastBefore (key : α → κ) (history : List α) (a b : α) : Prop :=
  ∃ before between after, history = before ++ a :: (between ++ b :: after) ∧
    (∀ later ∈ between ++ b :: after, key later ≠ key a) ∧ ∀ later ∈ after, key later ≠ key b

theorem not_lastBy_nil : ¬ LastBy key [] a := by
  rintro ⟨before, after, h, -⟩
  simp at h

/-- **The newest element is the last of its key, and replaces nothing else.** -/
theorem lastBy_concat :
    LastBy key (history ++ [e]) a ↔ a = e ∨ LastBy key history a ∧ key a ≠ key e := by
  constructor
  · rintro ⟨before, after, h, hafter⟩
    obtain rfl | ⟨after, last, rfl⟩ := List.eq_nil_or_concat' after
    · have hlast := List.append_inj_right' h rfl
      exact .inl (List.singleton_inj.1 hlast).symm
    · rw [← List.cons_append, ← List.append_assoc] at h
      obtain ⟨rfl, hlast⟩ := List.append_inj' h rfl
      obtain rfl := List.singleton_inj.1 hlast
      refine .inr ⟨⟨before, after, rfl, fun later hlater => ?_⟩, ?_⟩
      · exact hafter later (List.mem_append_left _ hlater)
      · exact (hafter e (by simp)).symm
  · rintro (rfl | ⟨⟨before, after, rfl, hafter⟩, hne⟩)
    · exact ⟨history, [], rfl, by simp⟩
    · refine ⟨before, after ++ [e], by simp, fun later hlater => ?_⟩
      obtain hlater | hlater := List.mem_append.1 hlater
      · exact hafter later hlater
      · rw [List.mem_singleton.1 hlater]
        exact hne.symm

theorem LastBefore.concat (h : LastBefore key history a b) (ha : key a ≠ key e)
    (hb : key b ≠ key e) : LastBefore key (history ++ [e]) a b := by
  obtain ⟨before, between, after, rfl, hbetween, hafter⟩ := h
  refine ⟨before, between, after ++ [e], by simp, fun later hlater => ?_, fun later hlater => ?_⟩
  · rw [← List.cons_append, ← List.append_assoc, List.mem_append, List.mem_singleton] at hlater
    obtain hlater | rfl := hlater
    · exact hbetween later hlater
    · exact ha.symm
  · rw [List.mem_append, List.mem_singleton] at hlater
    obtain hlater | rfl := hlater
    · exact hafter later hlater
    · exact hb.symm

theorem LastBy.before_concat (h : LastBy key history a) (hne : key a ≠ key e) :
    LastBefore key (history ++ [e]) a e := by
  obtain ⟨before, after, rfl, hafter⟩ := h
  refine ⟨before, after, [], by simp, fun later hlater => ?_, by simp⟩
  rw [List.mem_append, List.mem_singleton] at hlater
  obtain hlater | rfl := hlater
  · exact hafter later hlater
  · exact hne.symm

/-- **Every key of a history has a last element.** -/
theorem exists_lastBy (key : α → κ) (h : e ∈ history) : ∃ a, LastBy key history a ∧ key a = key e := by
  induction history using List.reverseRecOn with
  | nil => cases h
  | append_singleton history last ih =>
    by_cases hkey : key e = key last
    · exact ⟨last, lastBy_concat.2 (.inl rfl), hkey.symm⟩
    · have hmem : e ∈ history := by
        obtain h | h := List.mem_append.1 h
        · exact h
        · exact absurd (congrArg key (List.mem_singleton.1 h)) hkey
      obtain ⟨a, ha, hae⟩ := ih hmem
      exact ⟨a, lastBy_concat.2 (.inr ⟨ha, hae ▸ hkey⟩), hae⟩

theorem LastBy.mem (h : LastBy key history a) : a ∈ history := by
  obtain ⟨before, after, rfl, -⟩ := h
  simp

/-- **A key has one last element.** -/
theorem LastBy.eq (ha : LastBy key history a) (hb : LastBy key history b) (h : key a = key b) :
    a = b := by
  induction history using List.reverseRecOn with
  | nil => exact absurd ha not_lastBy_nil
  | append_singleton history last ih =>
    obtain rfl | ⟨ha, hane⟩ := lastBy_concat.1 ha
    · obtain rfl | ⟨-, hbne⟩ := lastBy_concat.1 hb
      · rfl
      · exact absurd h.symm hbne
    · obtain rfl | ⟨hb, -⟩ := lastBy_concat.1 hb
      · exact absurd h hane
      · exact ih ha hb

/-- Where every key occurs once, every element is the last of its key. -/
theorem lastBy_iff_mem (h : (history.map key).Nodup) : LastBy key history a ↔ a ∈ history := by
  refine ⟨LastBy.mem, fun hmem => ?_⟩
  obtain ⟨last, hlast, hkey⟩ := exists_lastBy key hmem
  obtain rfl := List.inj_on_of_nodup_map h hlast.mem hmem hkey
  exact hlast

/-- **What is left of a history is seen through a map of its elements.** -/
theorem lastBy_map {β : Type} {f : β → α} {history : List β} :
    LastBy key (history.map f) a ↔ ∃ b, LastBy (key ∘ f) history b ∧ f b = a := by
  induction history using List.reverseRecOn with
  | nil => simp [not_lastBy_nil]
  | append_singleton history last ih =>
    simp only [List.map_append, List.map_singleton, lastBy_concat, ih, Function.comp_apply]
    constructor
    · intro h
      obtain rfl | ⟨⟨b, hb, rfl⟩, hne⟩ := h
      · exact ⟨last, .inl rfl, rfl⟩
      · exact ⟨b, .inr ⟨hb, hne⟩, rfl⟩
    · intro h
      obtain ⟨b, rfl | ⟨hb, hne⟩, rfl⟩ := h
      · exact .inl rfl
      · exact .inr ⟨⟨b, hb, rfl⟩, hne⟩

end Clinker

import Mathlib.Data.List.Basic

/-!
# Lists, and computations that may fail

Facts about lists and about `Except` and `Option` that hold whatever the elements are and whatever
is computed.

**First-seen order.** A list without repetitions is in first-seen order when each of its elements
is first found in the original list before the elements that follow it. Removing repetitions gives
such a list (`pairwise_idxOf_eraseDups`), and leaving elements out keeps it one
(`idxOf_lt_of_filter`).
-/

namespace Clinker

/-! ## Computations that may fail -/

section Failure

variable {ε α β : Type}

/-- A computation in two steps succeeds only if both do. -/
theorem bind_eq_ok {x : Except ε α} {f : α → Except ε β} {b : β} (h : (x >>= f) = .ok b) :
    ∃ a, x = .ok a ∧ f a = .ok b := by
  cases x with
  | error e => cases h
  | ok a => exact ⟨a, rfl, h⟩

theorem exists_of_mapM_eq_ok {f : α → Except ε β} {l : List α} {bs : List β}
    (h : l.mapM f = .ok bs) : ∀ a ∈ l, ∃ b, f a = .ok b := by
  induction l generalizing bs with
  | nil => nofun
  | cons a l ih =>
    rw [List.mapM_cons] at h
    obtain ⟨b, ha, h⟩ := bind_eq_ok h
    obtain ⟨bs, hl, -⟩ := bind_eq_ok h
    exact List.forall_mem_cons.2 ⟨⟨b, ha⟩, ih hl⟩

theorem isSome_mapM {f : α → Option β} {l : List α} :
    (l.mapM f).isSome = true ↔ ∀ a ∈ l, (f a).isSome = true := by
  induction l with
  | nil => simp
  | cons a l ih =>
    rw [List.mapM_cons, List.forall_mem_cons, ← ih]
    cases f a <;> cases l.mapM f <;> simp

theorem mapM_eq_pure {m : Type → Type} [Monad m] [LawfulMonad m] {f : α → m β} {g : α → β}
    {l : List α} (h : ∀ a ∈ l, f a = pure (g a)) : l.mapM f = pure (l.map g) := by
  induction l with
  | nil => rfl
  | cons a l ih =>
    obtain ⟨ha, hl⟩ := List.forall_mem_cons.1 h
    rw [List.mapM_cons, ha, ih hl, pure_bind, pure_bind, List.map_cons]

end Failure

/-! ## Lists without repetitions -/

section EraseDups

variable {α : Type} [DecidableEq α]

theorem eraseDups_sublist (l : List α) : l.eraseDups.Sublist l := by
  match l with
  | [] => exact List.Sublist.slnil
  | c :: l =>
    rw [List.eraseDups_cons]
    exact ((eraseDups_sublist _).trans List.filter_sublist).cons_cons c
termination_by l.length
decreasing_by exact Nat.lt_succ_of_le (List.length_filter_le _ l)

theorem eraseDups_of_nodup {l : List α} (h : l.Nodup) : l.eraseDups = l := by
  induction l with
  | nil => rfl
  | cons c l ih =>
    rw [List.nodup_cons] at h
    have hother : (l.filter fun b => !b == c) = l := by
      rw [List.filter_eq_self]
      intro b hb
      have hne : b ≠ c := by
        rintro rfl
        exact h.1 hb
      simpa using hne
    rw [List.eraseDups_cons, hother, ih h.2]

/-- What is left out changes the order of nothing else. -/
theorem idxOf_lt_of_filter {p : α → Bool} {a b : α} (ha : p a = true) (hb : p b = true) :
    ∀ {l : List α}, (l.filter p).idxOf a < (l.filter p).idxOf b → l.idxOf a < l.idxOf b
  | [], h => h
  | c :: l, h => by
    by_cases hc : p c = true
    · rw [List.filter_cons_of_pos hc] at h
      by_cases hca : c = a
      · subst hca
        by_cases hcb : c = b
        · subst hcb
          exact absurd h (Nat.lt_irrefl _)
        · rw [List.idxOf_cons_self, List.idxOf_cons_ne _ hcb]
          exact Nat.succ_pos _
      · have hcb : c ≠ b := by
          rintro rfl
          rw [List.idxOf_cons_self] at h
          exact Nat.not_lt_zero _ h
        rw [List.idxOf_cons_ne _ hca, List.idxOf_cons_ne _ hcb] at h ⊢
        exact Nat.succ_lt_succ (idxOf_lt_of_filter ha hb (Nat.lt_of_succ_lt_succ h))
    · rw [List.filter_cons_of_neg hc] at h
      have hca : c ≠ a := fun e => hc (e ▸ ha)
      have hcb : c ≠ b := fun e => hc (e ▸ hb)
      rw [List.idxOf_cons_ne _ hca, List.idxOf_cons_ne _ hcb]
      exact Nat.succ_lt_succ (idxOf_lt_of_filter ha hb h)

/-- **Removing repetitions keeps the first of each.** -/
theorem pairwise_idxOf_eraseDups (l : List α) :
    l.eraseDups.Pairwise fun a b => l.idxOf a < l.idxOf b := by
  match l with
  | [] => simp
  | c :: l =>
    have ih := pairwise_idxOf_eraseDups (l.filter fun b => !b == c)
    have hne : ∀ {b}, b ∈ (l.filter fun b => !b == c).eraseDups → c ≠ b := by
      intro b hb
      have hbc : b ≠ c := by simpa using (List.mem_filter.1 (List.mem_eraseDups.1 hb)).2
      exact hbc.symm
    rw [List.eraseDups_cons, List.pairwise_cons]
    refine ⟨fun b hb => ?_, ih.imp_of_mem fun {a b} ha hb h => ?_⟩
    · rw [List.idxOf_cons_self, List.idxOf_cons_ne _ (hne hb)]
      exact Nat.succ_pos _
    · have hp : ∀ {b}, c ≠ b → (!b == c) = true := fun h => by simpa using h.symm
      rw [List.idxOf_cons_ne _ (hne ha), List.idxOf_cons_ne _ (hne hb)]
      have hlt := idxOf_lt_of_filter (p := fun b => !b == c) (hp (hne ha)) (hp (hne hb)) h
      exact Nat.succ_lt_succ hlt
termination_by l.length
decreasing_by exact Nat.lt_succ_of_le (List.length_filter_le _ l)

end EraseDups

end Clinker

import Clinker.Path

/-!
# The order of paths

Paths are ordered by their components. The order is total (`le_total`), and of two paths with
different components only one comes before the other (`components_eq_of_le`). So a list in which
every path comes strictly before the next ones is determined by the paths that occur in it, as far
as their components go (`map_components_eq`).
-/

namespace Clinker

/-! ## Components -/

namespace Component

variable {a b c : Component}

/-- **When a component comes before another**: its kind does, or both are names. -/
theorem lt_iff : a.lt b = true ↔
    a.rank < b.rank ∨ ∃ s t, a = .name s ∧ b = .name t ∧ s < t := by
  cases a <;> cases b <;> simp [lt, rank]

theorem lt_trans (hab : a.lt b = true) (hbc : b.lt c = true) : a.lt c = true := by
  rw [lt_iff] at *
  obtain hab | ⟨s, t, rfl, rfl, hst⟩ := hab
  · obtain hbc | ⟨t, u, rfl, rfl, -⟩ := hbc
    · exact .inl (Nat.lt_trans hab hbc)
    · exact .inl hab
  · obtain hbc | ⟨t', u, ht, rfl, htu⟩ := hbc
    · exact .inl hbc
    · cases ht
      exact .inr ⟨s, u, rfl, rfl, String.lt_trans hst htu⟩

theorem lt_irrefl (a : Component) : a.lt a = false := by
  rw [Bool.eq_false_iff, ne_eq, lt_iff]
  rintro (hrank | ⟨s, t, rfl, ht, hst⟩)
  · exact Nat.lt_irrefl _ hrank
  · cases ht
    exact String.lt_irrefl _ hst

theorem eq_or_names_of_rank_eq (h : a.rank = b.rank) :
    a = b ∨ ∃ s t, a = .name s ∧ b = .name t := by
  cases a <;> cases b <;> simp [rank] at h ⊢

theorem lt_or_lt_of_ne (h : a ≠ b) : a.lt b = true ∨ b.lt a = true := by
  rw [lt_iff, lt_iff]
  obtain hrank | hrank | hrank := Nat.lt_trichotomy a.rank b.rank
  · exact .inl (.inl hrank)
  · obtain ⟨s, t, rfl, rfl⟩ := (eq_or_names_of_rank_eq hrank).resolve_left h
    by_cases hst : s < t
    · exact .inl (.inr ⟨s, t, rfl, rfl, hst⟩)
    · have hts : t < s := String.not_le.1 fun hle =>
        h (congrArg name (String.le_antisymm hle (String.not_lt.1 hst)))
      exact .inr (.inr ⟨t, s, rfl, rfl, hts⟩)
  · exact .inr (.inl hrank)

end Component

namespace Path

/-! ## Lists of components -/

theorem leComponents_cons {a b : Component} {as bs : List Component} :
    leComponents (a :: as) (b :: bs) = true ↔ a = b ∧ leComponents as bs = true ∨
      a.lt b = true := by
  rw [leComponents]
  by_cases h : a = b
  · subst h
    simp [Component.lt_irrefl]
  · simp [h]

theorem leComponents_trans {as bs cs : List Component} (hab : leComponents as bs = true)
    (hbc : leComponents bs cs = true) : leComponents as cs = true := by
  induction as generalizing bs cs with
  | nil => rfl
  | cons a as ih =>
    match bs, cs with
    | [], _ => cases hab
    | _ :: _, [] => cases hbc
    | b :: bs, c :: cs =>
      rw [leComponents_cons] at *
      obtain ⟨rfl, hab⟩ | hab := hab
      · obtain ⟨rfl, hbc⟩ | hbc := hbc
        · exact .inl ⟨rfl, ih hab hbc⟩
        · exact .inr hbc
      · obtain ⟨rfl, -⟩ | hbc := hbc
        · exact .inr hab
        · exact .inr (Component.lt_trans hab hbc)

theorem leComponents_total (as bs : List Component) :
    leComponents as bs = true ∨ leComponents bs as = true := by
  induction as generalizing bs with
  | nil => exact .inl rfl
  | cons a as ih =>
    cases bs with
    | nil => exact .inr rfl
    | cons b bs =>
      rw [leComponents_cons, leComponents_cons]
      by_cases h : a = b
      · exact (ih bs).imp (fun hab => .inl ⟨h, hab⟩) fun hba => .inl ⟨h.symm, hba⟩
      · exact (Component.lt_or_lt_of_ne h).imp .inr .inr

theorem leComponents_antisymm {as bs : List Component} (hab : leComponents as bs = true)
    (hba : leComponents bs as = true) : as = bs := by
  induction as generalizing bs with
  | nil =>
    cases bs with
    | nil => rfl
    | cons b bs => cases hba
  | cons a as ih =>
    cases bs with
    | nil => cases hab
    | cons b bs =>
      have hasymm : a.lt b = true → b.lt a = true → False := by
        intro hlt hgt
        have hself := Component.lt_trans hlt hgt
        rw [Component.lt_irrefl] at hself
        cases hself
      rw [leComponents_cons] at hab hba
      obtain ⟨rfl, hab⟩ | hlt := hab
      · obtain ⟨-, hba⟩ | hself := hba
        · rw [ih hab hba]
        · exact (hasymm hself hself).elim
      · obtain ⟨rfl, -⟩ | hgt := hba
        · exact (hasymm hlt hlt).elim
        · exact (hasymm hlt hgt).elim

/-! ## Paths -/

variable {p q r : Path}

theorem le_trans (p q r : Path) (hpq : p.le q = true) (hqr : q.le r = true) : p.le r = true :=
  leComponents_trans hpq hqr

theorem le_total (p q : Path) : (p.le q || q.le p) = true := by
  rw [Bool.or_eq_true]
  exact leComponents_total _ _

theorem components_eq_of_le (hpq : p.le q = true) (hqp : q.le p = true) :
    p.components = q.components :=
  leComponents_antisymm hpq hqp

/-- One path comes strictly before another. -/
def Before (p q : Path) : Prop := p.le q = true ∧ p.same q = false

/-- **Lists in strict order with the same paths in them are the same**, component by component. -/
theorem map_components_eq {l l' : List Path} (hl : l.Pairwise Before) (hl' : l'.Pairwise Before)
    (h : ∀ cs, cs ∈ l.map components ↔ cs ∈ l'.map components) :
    l.map components = l'.map components := by
  have hsorted : ∀ {l : List Path}, l.Pairwise Before →
      (l.map components).Pairwise fun as bs => leComponents as bs = true := fun hl =>
    List.pairwise_map.2 (hl.imp And.left)
  have hnodup : ∀ {l : List Path}, l.Pairwise Before → (l.map components).Nodup := fun hl =>
    List.pairwise_map.2 (hl.imp fun hpq => beq_eq_false_iff_ne.1 hpq.2)
  have hperm := (List.perm_ext_iff_of_nodup (hnodup hl) (hnodup hl')).2 h
  exact hperm.eq_of_pairwise (fun _ _ _ _ => leComponents_antisymm) (hsorted hl) (hsorted hl')

end Path

end Clinker

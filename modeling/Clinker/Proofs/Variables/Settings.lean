import Clinker.Proofs.History
import Clinker.Variables

/-!
# Variables that settings leave

Variables are kept in the order of their names, each name once (`Sorted`), and setting one keeps
them so. The variables left by a list of settings are therefore its last ones of each name
(`mem_ofSettings`), and variables that are in order already are left as they are
(`ofSettings_of_sorted`).
-/

namespace Clinker.Variables

/-- Variables in the order of their names, each name once. -/
def Sorted (vars : List (String × String)) : Prop := vars.Pairwise fun a b => a.1 < b.1

variable {key value : String} {vars : List (String × String)} {x : String × String}

/-- **Setting a variable replaces what it was set to.** -/
theorem mem_set (h : Sorted vars) :
    x ∈ set key value vars ↔ x = (key, value) ∨ x ∈ vars ∧ x.1 ≠ key := by
  induction vars with
  | nil => simp [set]
  | cons kv rest ih =>
    obtain ⟨k, v⟩ := kv
    obtain ⟨hk, hrest⟩ := List.pairwise_cons.1 h
    have hne : ∀ {name : String}, name < k → ∀ y ∈ (k, v) :: rest, y.1 ≠ name := by
      intro name hlt y hy heq
      obtain rfl | hy := List.mem_cons.1 hy
      · exact String.lt_irrefl _ (heq ▸ hlt)
      · exact String.lt_asymm hlt (heq ▸ hk y hy)
    simp only [set]
    split
    · next heq =>
      obtain rfl := beq_iff_eq.1 heq
      have hafter : ∀ y ∈ rest, y.1 ≠ key := fun y hy heq => String.lt_irrefl _ (heq ▸ hk y hy)
      simp only [List.mem_cons]
      constructor
      · intro hx
        exact hx.imp_right fun hx => ⟨.inr hx, hafter x hx⟩
      · intro hx
        obtain hx | ⟨rfl | hx, hx'⟩ := hx
        · exact .inl hx
        · exact absurd rfl hx'
        · exact .inr hx
    · next hnbeq =>
      split
      · next hlt =>
        rw [List.mem_cons]
        exact or_congr_right ⟨fun hx => ⟨hx, hne hlt x hx⟩, And.left⟩
      · have hkey : k ≠ key := fun heq => hnbeq (beq_iff_eq.2 heq.symm)
        rw [List.mem_cons, ih hrest, List.mem_cons]
        constructor
        · intro hx
          obtain rfl | hx | ⟨hx, hx'⟩ := hx
          · exact .inr ⟨.inl rfl, hkey⟩
          · exact .inl hx
          · exact .inr ⟨.inr hx, hx'⟩
        · intro hx
          obtain hx | ⟨hx | hx, hx'⟩ := hx
          · exact .inr (.inl hx)
          · exact .inl hx
          · exact .inr (.inr ⟨hx, hx'⟩)

theorem Sorted.set (h : Sorted vars) (key value : String) : Sorted (set key value vars) := by
  induction vars with
  | nil => exact List.pairwise_singleton _ _
  | cons kv rest ih =>
    obtain ⟨k, v⟩ := kv
    obtain ⟨hk, hrest⟩ := List.pairwise_cons.1 h
    simp only [Variables.set]
    split
    · next heq =>
      obtain rfl := beq_iff_eq.1 heq
      exact List.pairwise_cons.2 ⟨hk, hrest⟩
    · next hnbeq =>
      split
      · next hlt =>
        refine List.pairwise_cons.2 ⟨fun y hy => ?_, h⟩
        obtain rfl | hy := List.mem_cons.1 hy
        · exact hlt
        · exact String.lt_trans hlt (hk y hy)
      · next hnlt =>
        refine List.pairwise_cons.2 ⟨fun y hy => ?_, ih hrest⟩
        obtain rfl | hy := (mem_set hrest).1 hy
        · have hne : k ≠ key := fun heq => hnbeq (beq_iff_eq.2 heq.symm)
          exact Std.lt_of_le_of_ne (String.not_lt.1 hnlt) hne
        · exact hk y hy.1

theorem ofSettings_concat (settings : List (String × String)) (key value : String) :
    ofSettings (settings ++ [(key, value)]) = set key value (ofSettings settings) := by
  simp [ofSettings]

theorem sorted_ofSettings (settings : List (String × String)) : Sorted (ofSettings settings) := by
  induction settings using List.reverseRecOn with
  | nil => exact List.Pairwise.nil
  | append_singleton settings setting ih =>
    rw [ofSettings_concat]
    exact ih.set _ _

/-- **The last setting of each name is left.** -/
theorem mem_ofSettings {settings : List (String × String)} :
    x ∈ ofSettings settings ↔ LastBy Prod.fst settings x := by
  induction settings using List.reverseRecOn with
  | nil => simp [ofSettings, not_lastBy_nil]
  | append_singleton settings setting ih =>
    rw [ofSettings_concat, mem_set (sorted_ofSettings settings), lastBy_concat, ih]

theorem Sorted.nodup_names (h : Sorted vars) : (vars.map Prod.fst).Nodup := by
  refine List.pairwise_map.2 (h.imp ?_)
  intro a b hlt heq
  exact String.lt_irrefl _ (heq ▸ hlt)

/-- **Variables in order are left as they are.** -/
theorem ofSettings_of_sorted (h : Sorted vars) : ofSettings vars = vars := by
  have hsorted := sorted_ofSettings vars
  have hsame : (ofSettings vars).Perm vars := by
    rw [List.perm_ext_iff_of_nodup hsorted.nodup_names.of_map h.nodup_names.of_map]
    intro x
    rw [mem_ofSettings, lastBy_iff_mem h.nodup_names]
  exact hsame.eq_of_pairwise (fun _ _ _ _ hab hba => absurd hba (String.lt_asymm hab)) hsorted h

end Clinker.Variables

import Clinker.Proofs.Text.CaseTable

/-!
# Upper case

A text in upper case stays as it is in upper case (`upper_upper`): no character that upper case
leads to has another upper case itself. This is one more fact about the rows of a table, and is
checked as those on lower case are, by comparing sets of code points as numbers.
-/

namespace Clinker.Text

/-- The code points that have another upper case. -/
def raisedCodes : List Nat := expandingUppercase.map (·.1) ++ uppercaseRuns.flatMap (·.codes)

/-- The code points that upper case leads to. -/
def capitalCodes : List Nat :=
  expandingUppercase.flatMap (·.2) ++ uppercaseRuns.flatMap fun r => r.codes.map r.image

theorem capitalCodes_disjoint : codeBits capitalCodes &&& codeBits raisedCodes = 0 := by
  decide +kernel

theorem zero_not_mem_raisedCodes : 0 ∉ raisedCodes := by
  decide +kernel

/-- A character that is raised is led to capitals, and every other one stays. -/
theorem upperChar_cases (c : Char) :
    (c.toNat ∈ raisedCodes ∧ ∀ d ∈ upperChar c, ∃ n ∈ capitalCodes, d = Char.ofNat n) ∨
    upperChar c = [c] := by
  unfold upperChar
  split
  · next code image hrow =>
    have hmem := List.mem_of_find?_eq_some hrow
    have hcode : code = c.toNat := by simpa using List.find?_some hrow
    refine .inl ⟨List.mem_append_left _ (List.mem_map.2 ⟨_, hmem, hcode⟩), fun d hd => ?_⟩
    obtain ⟨n, hn, rfl⟩ := List.mem_map.1 hd
    exact ⟨n, List.mem_append_left _ (List.mem_flatMap.2 ⟨_, hmem, hn⟩), rfl⟩
  · split
    · next r hr =>
      have hmem := List.mem_of_find?_eq_some hr
      have hcode : c.toNat ∈ r.codes := CaseRun.mem_codes_of_holds
        (List.find?_some (p := fun r : CaseRun => r.holds c.toNat) hr)
      refine .inl ⟨List.mem_append_right _ (List.mem_flatMap.2 ⟨r, hmem, hcode⟩), fun d hd => ?_⟩
      refine ⟨r.image c.toNat, List.mem_append_right _ ?_, List.mem_singleton.1 hd⟩
      exact List.mem_flatMap.2 ⟨r, hmem, List.mem_map_of_mem hcode⟩
    · exact .inr rfl

/-- **Upper case is final.** -/
theorem upperChar_of_mem_upperChar {c d : Char} (h : d ∈ upperChar c) : upperChar d = [d] := by
  obtain ⟨-, hcapitals⟩ | hc := upperChar_cases c
  · obtain ⟨hraised, -⟩ | hd := upperChar_cases d
    · exfalso
      obtain ⟨n, hn, rfl⟩ := hcapitals d h
      obtain hnat | hzero := toNat_ofNat_or n
      · rw [hnat] at hraised
        exact not_mem_of_codeBits capitalCodes_disjoint hn hraised
      · rw [hzero] at hraised
        exact zero_not_mem_raisedCodes hraised
    · exact hd
  · obtain rfl := List.mem_singleton.1 (hc ▸ h)
    exact hc

/-- **A text in upper case stays as it is in upper case.** -/
theorem upper_upper (s : String) : upper (upper s) = upper s := by
  have hstays : ∀ {cs : List Char}, (∀ d ∈ cs, upperChar d = [d]) → cs.flatMap upperChar = cs := by
    intro cs h
    induction cs with
    | nil => rfl
    | cons d cs ih =>
      rw [List.forall_mem_cons] at h
      rw [List.flatMap_cons, h.1, ih h.2, List.singleton_append]
  apply String.toList_injective
  simp only [upper, toList_onChars]
  refine hstays fun d hd => ?_
  obtain ⟨c, -, hc⟩ := List.mem_flatMap.1 hd
  exact upperChar_of_mem_upperChar hc

end Clinker.Text

import Clinker.Text.Casing
import Clinker.Text.Space

/-!
# What the table of lower case does not touch

Two facts about the rows of `lowercaseRuns` together. A code point that lower case leads to has no
other lower case itself, and is neither white space nor a separator of a path
(`ofNat_of_mem_reachedCodes`). And white space and separators have no other lower case
(`not_mem_movedCodes_of_still`).

**Sets of code points.** Both facts say that sets of code points are disjoint. There are too many
rows to compare each with each, so a set is compared as a number with one bit for each of its
members (`codeBits`): the sets are disjoint when the numbers have no bit in common.
-/

namespace Clinker.Text

/-! ## Sets of code points -/

/-- The number whose bits are the given code points. -/
def codeBits (codes : List Nat) : Nat := codes.foldr (fun n bits => bits ||| 1 <<< n) 0

theorem testBit_codeBits {codes : List Nat} {n : Nat} :
    (codeBits codes).testBit n = true ↔ n ∈ codes := by
  induction codes with
  | nil => simp [codeBits]
  | cons c codes ih =>
    have hone : (1 <<< c).testBit n = true ↔ n = c := by
      rw [Nat.testBit_shiftLeft, Bool.and_eq_true, decide_eq_true_eq,
        Nat.testBit_one_eq_true_iff_self_eq_zero]
      omega
    rw [codeBits, List.foldr_cons, Nat.testBit_or, Bool.or_eq_true, ← codeBits, ih, hone,
      List.mem_cons, or_comm]

/-- **Numbers without a common bit are disjoint sets.** -/
theorem not_mem_of_codeBits {codes codes' : List Nat} (h : codeBits codes &&& codeBits codes' = 0)
    {n : Nat} (hn : n ∈ codes) : n ∉ codes' := by
  intro hn'
  have hbit : (codeBits codes &&& codeBits codes').testBit n = true := by
    rw [Nat.testBit_and, testBit_codeBits.2 hn, testBit_codeBits.2 hn', Bool.and_self]
  rw [h, Nat.zero_testBit] at hbit
  cases hbit

/-- The code points of a run. -/
def CaseRun.codes (r : CaseRun) : List Nat :=
  (List.range ((r.last - r.first) / r.step + 1)).map fun k => r.first + r.step * k

theorem CaseRun.mem_codes_of_holds {r : CaseRun} {n : Nat} (h : r.holds n = true) :
    n ∈ r.codes := by
  rw [holds, Bool.and_eq_true, Bool.and_eq_true, decide_eq_true_eq, decide_eq_true_eq,
    beq_iff_eq] at h
  obtain ⟨⟨hfirst, hlast⟩, hstep⟩ := h
  have hk : r.step * ((n - r.first) / r.step) = n - r.first :=
    Nat.mul_div_cancel' (Nat.dvd_of_mod_eq_zero hstep)
  have hle : (n - r.first) / r.step ≤ (r.last - r.first) / r.step :=
    Nat.div_le_div_right (Nat.sub_le_sub_right hlast _)
  rw [codes, List.mem_map]
  exact ⟨(n - r.first) / r.step, List.mem_range.2 (Nat.lt_succ_of_le hle), by omega⟩

/-! ## The table -/

/-- The code points that have another lower case. -/
def movedCodes : List Nat := 0x130 :: lowercaseRuns.flatMap (·.codes)

/-- The code points that lower case leads to: where the rows lead, the two characters that one
letter becomes, and the sigmas that a capital sigma becomes. -/
def reachedCodes : List Nat :=
  [0x69, 0x307, 0x3C2, 0x3C3] ++ lowercaseRuns.flatMap fun r => r.codes.map r.image

/-- The code points of ASCII without the capitals. -/
def asciiLowerCodes : List Nat := List.range 0x41 ++ List.range' 0x5B 0x25

/-- White space and the two separators. -/
def stillCodes : List Nat :=
  List.range' 0x9 5 ++ List.range' 0x2000 11 ++
    [0x20, 0x2F, 0x5C, 0x85, 0xA0, 0x1680, 0x2028, 0x2029, 0x202F, 0x205F, 0x3000]

theorem reachedCodes_disjoint :
    codeBits reachedCodes &&& codeBits (stillCodes ++ movedCodes) = 0 := by
  decide +kernel

theorem stillCodes_disjoint : codeBits stillCodes &&& codeBits movedCodes = 0 := by
  decide +kernel

theorem asciiLowerCodes_disjoint : codeBits asciiLowerCodes &&& codeBits movedCodes = 0 := by
  decide +kernel

theorem mem_asciiLowerCodes {n : Nat} :
    n ∈ asciiLowerCodes ↔ n < 0x41 ∨ 0x5B ≤ n ∧ n < 0x80 := by
  rw [asciiLowerCodes, List.mem_append, List.mem_range, List.mem_range'_1]

theorem mem_stillCodes_of_isSpace {c : Char} (h : isSpace c = true) : c.toNat ∈ stillCodes := by
  simp only [isSpace, Bool.or_eq_true, Bool.and_eq_true, decide_eq_true_eq, beq_iff_eq] at h
  simp only [stillCodes, List.mem_append, List.mem_range'_1, List.mem_cons]
  omega

/-- **White space and separators have no other lower case.** -/
theorem not_mem_movedCodes_of_still {n : Nat} (h : n ∈ stillCodes) : n ∉ movedCodes :=
  not_mem_of_codeBits stillCodes_disjoint h

/-- A code point that is reached is a character of that code point, or else the zero character
stands for it. -/
theorem toNat_ofNat_or (n : Nat) : (Char.ofNat n).toNat = n ∨ Char.ofNat n = '\x00' := by
  by_cases hvalid : n.isValidChar
  · exact .inl (toNat_ofNat hvalid)
  · exact .inr (dif_neg hvalid)

/-- **Lower case is final, and leads to no white space and no separator.** -/
theorem ofNat_of_mem_reachedCodes {n : Nat} (h : n ∈ reachedCodes) :
    (Char.ofNat n).toNat ∉ movedCodes ∧ (Char.ofNat n).toNat ∉ stillCodes := by
  rcases toNat_ofNat_or n with hnat | hzero
  · have hout := not_mem_of_codeBits reachedCodes_disjoint h
    rw [List.mem_append, not_or] at hout
    rw [hnat]
    exact hout.symm
  · rw [hzero]
    exact ⟨not_mem_of_codeBits asciiLowerCodes_disjoint (by decide), by decide⟩

/-- A character that is moved is led to what is reached, and every other one stays. -/
theorem lowerChar_cases (c : Char) :
    (c.toNat ∈ movedCodes ∧ ∀ d ∈ lowerChar c, ∃ n ∈ reachedCodes, d = Char.ofNat n) ∨
    lowerChar c = [c] := by
  unfold lowerChar
  split
  · next h =>
    rw [beq_iff_eq] at h
    refine .inl ⟨h ▸ List.mem_cons_self, fun d hd => ?_⟩
    rw [List.mem_cons, List.mem_singleton] at hd
    rcases hd with rfl | rfl
    · exact ⟨0x69, List.mem_append_left _ (by decide), rfl⟩
    · exact ⟨0x307, List.mem_append_left _ (by decide), rfl⟩
  · split
    · next r hr =>
      have hmem := List.mem_of_find?_eq_some hr
      have hcode : c.toNat ∈ r.codes := CaseRun.mem_codes_of_holds
        (List.find?_some (p := fun r : CaseRun => r.holds c.toNat) hr)
      refine .inl ⟨List.mem_cons_of_mem _ (List.mem_flatMap.2 ⟨r, hmem, hcode⟩), fun d hd => ?_⟩
      refine ⟨r.image c.toNat, List.mem_append_right _ ?_, List.mem_singleton.1 hd⟩
      exact List.mem_flatMap.2 ⟨r, hmem, List.mem_map_of_mem hcode⟩
    · exact .inr rfl

/-- What is not moved stays. -/
theorem lowerChar_of_not_mem {c : Char} (h : c.toNat ∉ movedCodes) : lowerChar c = [c] := by
  obtain ⟨hmoved, -⟩ | hc := lowerChar_cases c
  · exact absurd hmoved h
  · exact hc

theorem lowerChar_of_mem_asciiLowerCodes {c : Char} (h : c.toNat ∈ asciiLowerCodes) :
    lowerChar c = [c] :=
  lowerChar_of_not_mem (not_mem_of_codeBits asciiLowerCodes_disjoint h)

end Clinker.Text

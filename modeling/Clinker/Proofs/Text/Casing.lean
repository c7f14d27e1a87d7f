import Clinker.Proofs.Text.CaseTable

/-!
# Lower case

Three facts about lower case in the full sense. It does not see the case of ASCII letters
(`lowerChars_map_toLower`): whatever the casing rules ask of a character, they answer alike for
`A` and `a` (`toLower_congr`), so also the sigmas beside such letters come out alike. A text in
lower case stays as it is in lower case, and so does each part of it: the only character whose
context matters is gone (`lowerFrom_of_lowered`). And lower case goes through a text with separators
component by component: a `/` is no letter and is not looked through, so it ends the word before it
as the end of the text would (`lowerChars_append_slash`), and the text after it is lowered as if
nothing stood before (`lowerFrom_slash`).
-/

namespace Clinker.Text

/-! ## Length -/

theorem lowerChar_ne_nil (c : Char) : lowerChar c ≠ [] := by
  unfold lowerChar
  split
  · simp
  · split <;> simp

/-- No character is lost in lower case. -/
theorem lowerChars_eq_nil_iff {cs : List Char} : lowerChars cs = [] ↔ cs = [] := by
  cases cs with
  | nil => simp [lowerChars, lowerFrom]
  | cons c cs =>
    simp only [lowerChars, lowerFrom, List.append_eq_nil_iff, reduceCtorEq, iff_false, not_and]
    split
    · simp
    · exact fun h => absurd h (lowerChar_ne_nil c)

/-! ## ASCII letters -/

/-- A capital is lowered, and everything else is left as it is. -/
theorem toLower_cases (c : Char) :
    (∃ n < 26, c = Char.ofNat (0x41 + n) ∧ c.toLower = Char.ofNat (0x61 + n)) ∨
    c.toLower = c ∧ ¬ (0x41 ≤ c.toNat ∧ c.toNat ≤ 0x5A) := by
  by_cases hc : 0x41 ≤ c.toNat ∧ c.toNat ≤ 0x5A
  · obtain ⟨n, hn⟩ : ∃ n, c.toNat = 0x41 + n := ⟨c.toNat - 0x41, by omega⟩
    have hlt : n < 26 := by omega
    have hchar : c = Char.ofNat (0x41 + n) := by rw [← hn, Char.ofNat_toNat]
    have hlower : ∀ n < 26, (Char.ofNat (0x41 + n)).toLower = Char.ofNat (0x61 + n) := by decide
    exact .inl ⟨n, hlt, hchar, hchar ▸ hlower n hlt⟩
  · exact .inr ⟨dif_neg hc, hc⟩

/-- **What cannot tell the capitals from their lower case cannot tell any character from its ASCII
lower case.** -/
theorem toLower_congr {α : Type} {f : Char → α}
    (h : ∀ n < 26, f (Char.ofNat (0x61 + n)) = f (Char.ofNat (0x41 + n))) (c : Char) :
    f c.toLower = f c := by
  obtain ⟨n, hn, hc, hlower⟩ | ⟨hsame, -⟩ := toLower_cases c
  · rw [hlower, h n hn, ← hc]
  · rw [hsame]

theorem isSpace_toLower (c : Char) : isSpace c.toLower = isSpace c :=
  toLower_congr (by decide) c

theorem isCased_toLower (c : Char) : isCased c.toLower = isCased c :=
  toLower_congr (by decide) c

/-- No letter of ASCII is looked through. -/
theorem caseIgnorableRanges_apart : ∀ r ∈ caseIgnorableRanges,
    r.2 < 0x41 ∨ 0x5A < r.1 ∧ r.2 < 0x61 ∨ 0x7A < r.1 := by
  decide +kernel

theorem isCaseIgnorable_ofNat {n : Nat} (hvalid : n.isValidChar)
    (hn : 0x41 ≤ n ∧ n ≤ 0x5A ∨ 0x61 ≤ n ∧ n ≤ 0x7A) : isCaseIgnorable (Char.ofNat n) = false := by
  rw [isCaseIgnorable, toNat_ofNat hvalid, inRanges, List.any_eq_false]
  intro r hr
  have hapart := caseIgnorableRanges_apart r hr
  simp only [Bool.and_eq_true, decide_eq_true_eq]
  omega

theorem isCaseIgnorable_toLower (c : Char) : isCaseIgnorable c.toLower = isCaseIgnorable c := by
  refine toLower_congr (fun n hn => ?_) c
  rw [isCaseIgnorable_ofNat (.inl (by omega)) (by omega),
    isCaseIgnorable_ofNat (.inl (by omega)) (by omega)]

theorem toNat_ofNat_mem_asciiLowerCodes :
    ∀ n < 26, (Char.ofNat (0x61 + n)).toNat ∈ asciiLowerCodes := by
  decide

theorem lowerChar_toLower (c : Char) : lowerChar c.toLower = lowerChar c := by
  refine toLower_congr (fun n hn => ?_) c
  have hcapital : ∀ n < 26, lowerChar (Char.ofNat (0x41 + n)) = [Char.ofNat (0x61 + n)] := by
    decide
  rw [lowerChar_of_mem_asciiLowerCodes (toNat_ofNat_mem_asciiLowerCodes n hn), hcapital n hn]

theorem beq_capitalSigma_toLower (c : Char) : (c.toLower == capitalSigma) = (c == capitalSigma) :=
  toLower_congr (f := (· == capitalSigma)) (by decide) c

theorem meetsCased_map_toLower (cs : List Char) :
    meetsCased (cs.map Char.toLower) = meetsCased cs := by
  have hskip : (cs.map Char.toLower).dropWhile isCaseIgnorable =
      (cs.dropWhile isCaseIgnorable).map Char.toLower := by
    rw [List.dropWhile_map]
    congr 2
    funext c
    exact isCaseIgnorable_toLower c
  rw [meetsCased, hskip, meetsCased]
  cases cs.dropWhile isCaseIgnorable with
  | nil => rfl
  | cons c _ => exact isCased_toLower c

theorem lowerFrom_map_toLower (before cs : List Char) :
    lowerFrom (before.map Char.toLower) (cs.map Char.toLower) = lowerFrom before cs := by
  induction cs generalizing before with
  | nil => rfl
  | cons c cs ih =>
    have hsigma : lowerSigma (before.map Char.toLower) (cs.map Char.toLower) =
        lowerSigma before cs := by
      simp only [lowerSigma, meetsCased_map_toLower]
    rw [List.map_cons, lowerFrom, lowerFrom, beq_capitalSigma_toLower, hsigma, lowerChar_toLower,
      ← List.map_cons, ih]

/-- **Lower case does not see the case of ASCII letters.** -/
theorem lowerChars_map_toLower (cs : List Char) :
    lowerChars (cs.map Char.toLower) = lowerChars cs :=
  lowerFrom_map_toLower [] cs

theorem lowerChar_of_ascii {c : Char} (h : c.toNat < 128) : lowerChar c = [c.toLower] := by
  rw [← lowerChar_toLower]
  apply lowerChar_of_mem_asciiLowerCodes
  obtain ⟨n, hn, -, hlower⟩ | ⟨hsame, hcapital⟩ := toLower_cases c
  · rw [hlower]
    exact toNat_ofNat_mem_asciiLowerCodes n hn
  · rw [hsame, mem_asciiLowerCodes]
    omega

theorem lowerFrom_of_ascii {cs : List Char} (h : ∀ c ∈ cs, c.toNat < 128) (before : List Char) :
    lowerFrom before cs = cs.map Char.toLower := by
  induction cs generalizing before with
  | nil => rfl
  | cons c cs ih =>
    rw [List.forall_mem_cons] at h
    have hsigma : (c == capitalSigma) = false := by
      rw [beq_eq_false_iff_ne]
      rintro rfl
      exact absurd h.1 (by decide)
    simp [lowerFrom, hsigma, lowerChar_of_ascii h.1, ih h.2]

/-! ## Contexts -/

/-- Everything a character can become in lower case, whatever surrounds it. -/
def lowerImages (c : Char) : List Char :=
  if c = capitalSigma then [Char.ofNat 0x3C2, Char.ofNat 0x3C3] else lowerChar c

/-- In its context a character becomes one or more of its images. -/
theorem image_spec (c : Char) (before cs : List Char) :
    (if c == capitalSigma then [lowerSigma before cs] else lowerChar c) ≠ [] ∧
    ∀ d ∈ if c == capitalSigma then [lowerSigma before cs] else lowerChar c,
      d ∈ lowerImages c := by
  unfold lowerImages
  by_cases hc : c = capitalSigma
  · rw [if_pos (beq_iff_eq.2 hc), if_pos hc]
    refine ⟨List.cons_ne_nil _ _, fun d hd => ?_⟩
    rw [List.mem_singleton.1 hd, lowerSigma]
    split <;> simp
  · rw [if_neg (by simpa using hc), if_neg hc]
    exact ⟨lowerChar_ne_nil c, fun _ hd => hd⟩

theorem mem_lowerFrom {d : Char} {before cs : List Char} (h : d ∈ lowerFrom before cs) :
    ∃ c ∈ cs, d ∈ lowerImages c := by
  induction cs generalizing before with
  | nil => cases h
  | cons c cs ih =>
    rw [lowerFrom, List.mem_append] at h
    rcases h with h | h
    · exact ⟨c, List.mem_cons_self, (image_spec c before cs).2 d h⟩
    · obtain ⟨c', hc', hd⟩ := ih h
      exact ⟨c', List.mem_cons_of_mem _ hc', hd⟩

/-- What a character becomes is reached, unless it stays. -/
theorem lowerImages_cases (c : Char) :
    (c.toNat ∉ stillCodes ∧ ∀ d ∈ lowerImages c, ∃ n ∈ reachedCodes, d = Char.ofNat n) ∨
    lowerImages c = [c] ∧ lowerChar c = [c] := by
  unfold lowerImages
  split
  · next hc =>
    subst hc
    refine .inl ⟨by decide, fun d hd => ?_⟩
    rw [List.mem_cons, List.mem_singleton] at hd
    rcases hd with rfl | rfl
    · exact ⟨0x3C2, List.mem_append_left _ (by decide), rfl⟩
    · exact ⟨0x3C3, List.mem_append_left _ (by decide), rfl⟩
  · obtain ⟨hmoved, hreached⟩ | hc := lowerChar_cases c
    · exact .inl ⟨fun hstill => not_mem_movedCodes_of_still hstill hmoved, hreached⟩
    · exact .inr ⟨hc, hc⟩

/-- **Lower case is final.** What a character becomes in any context stays as it is. -/
theorem lowerChar_of_mem_lowerImages {c d : Char} (h : d ∈ lowerImages c) :
    lowerChar d = [d] := by
  obtain ⟨-, hreached⟩ | ⟨himages, hc⟩ := lowerImages_cases c
  · obtain ⟨n, hn, rfl⟩ := hreached d h
    exact lowerChar_of_not_mem (ofNat_of_mem_reachedCodes hn).1
  · rw [himages, List.mem_singleton] at h
    rw [h, hc]

/-- **White space and separators have no lower case and are none**, in any context. -/
theorem eq_of_mem_lowerImages_of_still {c d : Char} (h : d ∈ lowerImages c)
    (hstill : c.toNat ∈ stillCodes ∨ d.toNat ∈ stillCodes) : d = c := by
  obtain ⟨hnot, hreached⟩ | ⟨himages, -⟩ := lowerImages_cases c
  · obtain ⟨n, hn, rfl⟩ := hreached d h
    rcases hstill with hstill | hstill
    · exact absurd hstill hnot
    · exact absurd hstill (ofNat_of_mem_reachedCodes hn).2
  · rwa [himages, List.mem_singleton] at h

/-- A question that only white space or separators answer with yes has the same answer before and
after. -/
theorem still_congr {p : Char → Bool} (hp : ∀ c, p c = true → c.toNat ∈ stillCodes) {c d : Char}
    (h : d ∈ lowerImages c) : p d = p c := by
  rw [Bool.eq_iff_iff]
  constructor
  · intro hd
    rwa [← eq_of_mem_lowerImages_of_still h (.inr (hp d hd))]
  · intro hc
    rwa [eq_of_mem_lowerImages_of_still h (.inl (hp c hc))]

theorem lowerChar_of_mem_lowerChars {d : Char} {cs : List Char} (h : d ∈ lowerChars cs) :
    lowerChar d = [d] := by
  obtain ⟨c, -, hd⟩ := mem_lowerFrom h
  exact lowerChar_of_mem_lowerImages hd

/-- **What is in lower case stays as it is in lower case**, in any context: no capital sigma is
left, and the lower case of everything else is the same in all contexts. -/
theorem lowerFrom_of_lowered {cs : List Char} (h : ∀ c ∈ cs, lowerChar c = [c])
    (before : List Char) : lowerFrom before cs = cs := by
  induction cs generalizing before with
  | nil => rfl
  | cons c cs ih =>
    rw [List.forall_mem_cons] at h
    have hsigma : (c == capitalSigma) = false := by
      rw [beq_eq_false_iff_ne]
      rintro rfl
      exact absurd h.1 (by decide +kernel)
    simp [lowerFrom, hsigma, h.1, ih h.2]

/-- The first character of a text becomes the first characters of its lower case. -/
theorem exists_image_lowerFrom_cons (c : Char) (before cs : List Char) :
    ∃ d ds, d ∈ lowerImages c ∧ lowerFrom before (c :: cs) = d :: ds := by
  obtain ⟨hne, hmem⟩ := image_spec c before cs
  obtain ⟨d, ds, heq⟩ := List.exists_cons_of_ne_nil hne
  refine ⟨d, ds ++ lowerFrom (c :: before) cs, hmem d (heq ▸ List.mem_cons_self), ?_⟩
  rw [lowerFrom, heq, List.cons_append]

/-- The end of a text is lowered by itself, with what stands before it in view. -/
theorem exists_lowerFrom_append (before front back : List Char) : ∃ lowered,
    lowerFrom before (front ++ back) = lowered ++ lowerFrom (front.reverse ++ before) back := by
  induction front generalizing before with
  | nil => exact ⟨[], rfl⟩
  | cons c front ih =>
    obtain ⟨lowered, hlowered⟩ := ih (c :: before)
    rw [List.cons_append, lowerFrom, hlowered, ← List.append_assoc, List.reverse_cons,
      List.append_assoc front.reverse]
    exact ⟨_, rfl⟩

/-- The last character of a text becomes the last characters of its lower case. -/
theorem exists_image_lowerChars_concat (c : Char) (cs : List Char) :
    ∃ d ds, d ∈ lowerImages c ∧ lowerChars (cs ++ [c]) = ds ++ [d] := by
  obtain ⟨lowered, hlowered⟩ := exists_lowerFrom_append [] cs [c]
  obtain ⟨hne, hmem⟩ := image_spec c (cs.reverse ++ []) []
  have hend : lowerFrom (cs.reverse ++ []) [c] =
      if c == capitalSigma then [lowerSigma (cs.reverse ++ []) []] else lowerChar c :=
    List.append_nil _
  rw [← hend] at hne hmem
  refine ⟨_, lowered ++ (lowerFrom (cs.reverse ++ []) [c]).dropLast,
    hmem _ (List.getLast_mem hne), ?_⟩
  rw [lowerChars, hlowered, List.append_assoc, List.dropLast_concat_getLast hne]

/-! ## Separators -/

/-- A separator ends a word as the end of the text does. -/
theorem meetsCased_append_slash (cs rest : List Char) :
    meetsCased (cs ++ '/' :: rest) = meetsCased cs := by
  have hslash : isCaseIgnorable '/' = false := by decide +kernel
  induction cs with
  | nil =>
    have hcased : isCased '/' = false := by decide +kernel
    simp [meetsCased, hslash, hcased]
  | cons c cs ih =>
    by_cases hc : isCaseIgnorable c = true
    · simpa [meetsCased, List.dropWhile_cons, hc] using ih
    · simp [meetsCased, hc]

theorem lowerChar_slash : lowerChar '/' = ['/'] := lowerChar_of_mem_asciiLowerCodes (by decide)

theorem lowerFrom_append_slash (before cs rest : List Char) :
    lowerFrom before (cs ++ '/' :: rest) =
      lowerFrom before cs ++ '/' :: lowerFrom ('/' :: (cs.reverse ++ before)) rest := by
  induction cs generalizing before with
  | nil =>
    have hsigma : ('/' == capitalSigma) = false := by decide
    simp [lowerFrom, hsigma, lowerChar_slash]
  | cons c cs ih =>
    have hsigma : lowerSigma before (cs ++ '/' :: rest) = lowerSigma before cs := by
      simp only [lowerSigma, meetsCased_append_slash]
    rw [List.cons_append, lowerFrom, lowerFrom, ih, hsigma]
    simp

/-- **What stands before a separator is lowered apart from what follows it.** -/
theorem lowerChars_append_slash (cs rest : List Char) :
    lowerChars (cs ++ '/' :: rest) = lowerChars cs ++ '/' :: lowerFrom ('/' :: cs.reverse) rest := by
  rw [lowerChars, lowerFrom_append_slash, List.append_nil, lowerChars]

/-- What stands before a separator does not change what follows it. -/
theorem lowerFrom_append_slash_before (before above cs : List Char) :
    lowerFrom (before ++ '/' :: above) cs = lowerFrom before cs := by
  induction cs generalizing before with
  | nil => rfl
  | cons c cs ih =>
    have hsigma : lowerSigma (before ++ '/' :: above) cs = lowerSigma before cs := by
      simp only [lowerSigma, meetsCased_append_slash]
    rw [lowerFrom, lowerFrom, hsigma, ← List.cons_append, ih]

/-- What stands between two separators is lowered apart from everything else. -/
theorem lowerFrom_slash (above cs : List Char) : lowerFrom ('/' :: above) cs = lowerChars cs :=
  lowerFrom_append_slash_before [] above cs

/-- Separators at the end of a text stay as they are. -/
theorem lowerChars_append_of_forall {back : List Char} (h : ∀ c ∈ back, c = '/')
    (front : List Char) : lowerChars (front ++ back) = lowerChars front ++ back := by
  cases back with
  | nil => rw [List.append_nil, List.append_nil]
  | cons c back =>
    rw [List.forall_mem_cons] at h
    have hback : ∀ c ∈ back, lowerChar c = [c] := by
      intro c hc
      rw [h.2 c hc]
      exact lowerChar_slash
    rw [h.1, lowerChars_append_slash, lowerFrom_of_lowered hback]

/-- A text that begins with anything but `/` does so in lower case too. -/
theorem exists_lowerFrom_eq_cons {c : Char} (h : c ≠ '/') (before cs : List Char) :
    ∃ d ds, d ≠ '/' ∧ lowerFrom before (c :: cs) = d :: ds := by
  obtain ⟨d, ds, hd, heq⟩ := exists_image_lowerFrom_cons c before cs
  refine ⟨d, ds, ?_, heq⟩
  rintro rfl
  exact h (eq_of_mem_lowerImages_of_still hd (.inr (by decide))).symm

/-- A text that ends in anything but `/` does so in lower case too. -/
theorem getLast?_lowerChars_ne_slash {c : Char} (h : c ≠ '/') (cs : List Char) :
    ∀ d ∈ (lowerChars (cs ++ [c])).getLast?, d ≠ '/' := by
  obtain ⟨d, ds, hd, heq⟩ := exists_image_lowerChars_concat c cs
  rw [heq, List.getLast?_concat]
  rintro _ ⟨⟩ rfl
  exact h (eq_of_mem_lowerImages_of_still hd (.inr (by decide))).symm

end Clinker.Text

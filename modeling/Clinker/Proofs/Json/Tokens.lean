import Clinker.Json.Reader
import Clinker.Proofs.Json.Grammar
import Clinker.Text.Basic
import Mathlib.Data.List.DropRight
import Mathlib.Tactic.SplitIfs

/-!
# Reading the tokens of JSON

White space, numbers and strings, each in both directions: a spelling in front of other text is read
and the other text is left, and what is read is a spelling in front of what is left.

A number has no closing character, so it is read to its end only if what follows cannot continue it
(`Ends`). Strings are read in two passes, of the spelling into codes and of the codes into
characters. The second pass takes a code that is half a surrogate pair for an error, and otherwise
finds the only characters that the codes can stand for.
-/

namespace Clinker.Json

variable {cs rest : List Char}

/-! ## White space -/

theorem isBlank_iff {c : Char} : isBlank c = true ↔ c ∈ [' ', '\t', '\n', '\r'] := by
  simp [isBlank, or_assoc]

theorem skipBlank_append {w : List Char} (hw : Blanks w) (cs : List Char) :
    skipBlank (w ++ cs) = skipBlank cs :=
  List.dropWhile_append_of_pos fun c hc => isBlank_iff.2 (hw c hc)

theorem skipBlank_cons {c : Char} (hc : isBlank c = false) (cs : List Char) :
    skipBlank (c :: cs) = c :: cs :=
  List.dropWhile_cons_of_neg (by simp [hc])

theorem skipBlank_skipBlank (cs : List Char) : skipBlank (skipBlank cs) = skipBlank cs :=
  List.dropWhile_idempotent isBlank cs

/-- What is skipped is white space. -/
theorem exists_skipBlank (cs : List Char) : ∃ w, Blanks w ∧ cs = w ++ skipBlank cs :=
  ⟨cs.takeWhile isBlank, fun _ hc => isBlank_iff.1 (List.mem_takeWhile_imp hc),
    (List.takeWhile_append_dropWhile).symm⟩

/-! ## Numbers -/

/-- No digit comes first. -/
def NoDigit (rest : List Char) : Prop := ∀ c ∈ rest.head?, c.isDigit = false

/-- Nothing comes first that would go on with a number. -/
def Ends (rest : List Char) : Prop :=
  ∀ c ∈ rest.head?, c.isDigit = false ∧ c ≠ '.' ∧ c ≠ 'e' ∧ c ≠ 'E'

theorem digits?_append {ds : List Char} (h : Digits ds) (hrest : NoDigit rest) :
    digits? (ds ++ rest) = some (ds, rest) := by
  have hstop : rest.takeWhile Char.isDigit = [] ∧ rest.dropWhile Char.isDigit = rest := by
    cases rest with
    | nil => exact ⟨rfl, rfl⟩
    | cons c cs => simp [hrest c rfl]
  rw [digits?, List.takeWhile_append_of_pos h.2, List.dropWhile_append_of_pos h.2, hstop.1,
    hstop.2, List.append_nil]
  exact if_neg (by simpa using h.1)

theorem digits_of_digits? {ds : List Char} (h : digits? cs = some (ds, rest)) :
    Digits ds ∧ cs = ds ++ rest := by
  simp only [digits?] at h
  split_ifs at h with hempty
  cases h
  refine ⟨⟨by simpa using hempty, fun c hc => List.mem_takeWhile_imp hc⟩, ?_⟩
  exact (List.takeWhile_append_dropWhile).symm

theorem whole?_append {ds : List Char} (h : Whole ds) (hrest : NoDigit rest) :
    whole? (ds ++ rest) = some (ds, rest) := by
  have hzero : (ds.head? == some '0' && ds.length != 1) = false := by
    by_cases hhead : ds.head? = some '0'
    · rw [h.2 hhead]
      rfl
    · simp [hhead]
  simp only [whole?, digits?_append h.1 hrest, Option.bind_eq_bind, Option.bind_some, hzero]
  rfl

theorem whole_of_whole? {ds : List Char} (h : whole? cs = some (ds, rest)) :
    Whole ds ∧ cs = ds ++ rest := by
  simp only [whole?, Option.bind_eq_bind, Option.bind_eq_some_iff] at h
  obtain ⟨⟨ds', rest'⟩, hdigits, h⟩ := h
  split_ifs at h with hzero
  cases h
  obtain ⟨hds, hcs⟩ := digits_of_digits? hdigits
  refine ⟨⟨hds, fun hhead => ?_⟩, hcs⟩
  have hone : ds'.length = 1 := by simpa [hhead] using hzero
  obtain ⟨c, rfl⟩ := List.length_eq_one_iff.1 hone
  simpa using hhead

theorem fraction?_append {t : List Char} (h : Fraction t) (hrest : NoDigit rest)
    (hpoint : rest.head? ≠ some '.') : fraction? (t ++ rest) = some (t, rest) := by
  cases h with
  | absent =>
    rw [List.nil_append, fraction?]
    rintro ds rfl
    exact hpoint rfl
  | digits hds => simp only [List.cons_append, fraction?, digits?_append hds hrest, Option.map_some]

theorem fraction_of_fraction? {t : List Char} (h : fraction? cs = some (t, rest)) :
    Fraction t ∧ cs = t ++ rest := by
  unfold fraction? at h
  split at h
  · simp only [Option.map_eq_some_iff] at h
    obtain ⟨⟨ds, rest'⟩, hdigits, h⟩ := h
    cases h
    obtain ⟨hds, rfl⟩ := digits_of_digits? hdigits
    exact ⟨.digits hds, rfl⟩
  · cases h
    exact ⟨.absent, rfl⟩

theorem exponent?_append {t : List Char} (h : Exponent t) (hrest : Ends rest) :
    exponent? (t ++ rest) = some (t, rest) := by
  have hdigit : NoDigit rest := fun c hc => (hrest c hc).1
  cases h with
  | absent =>
    cases rest with
    | nil => rfl
    | cons c cs =>
      obtain ⟨-, -, he, hE⟩ := hrest c rfl
      simp [exponent?, he, hE]
  | @digits e sign ds he hsign hds =>
    have hexp : (e == 'e' || e == 'E') = true := by simpa using he
    simp only [List.mem_cons, List.not_mem_nil, or_false] at hsign
    obtain rfl | rfl | rfl := hsign
    · obtain ⟨d, ds, rfl⟩ := List.exists_cons_of_ne_nil hds.1
      have hd := hds.2 d List.mem_cons_self
      have hplus : (d == '+' || d == '-') = false := by
        rw [Bool.or_eq_false_iff, beq_eq_false_iff_ne, beq_eq_false_iff_ne]
        constructor <;> rintro rfl <;> cases hd
      have hread := digits?_append hds hdigit
      rw [List.cons_append] at hread
      simp [exponent?, hexp, hplus, hread]
    · simp [exponent?, hexp, digits?_append hds hdigit]
    · simp [exponent?, hexp, digits?_append hds hdigit]

theorem exponent_of_exponent? {t : List Char} (h : exponent? cs = some (t, rest)) :
    Exponent t ∧ cs = t ++ rest := by
  unfold exponent? at h
  split at h
  · next e cs =>
    split_ifs at h with hexp
    · have he : e ∈ ['e', 'E'] := by simpa using hexp
      split at h
      · next s more =>
        split_ifs at h with hsign
        all_goals
          simp only [Option.map_eq_some_iff] at h
          obtain ⟨⟨ds, rest'⟩, hdigits, h⟩ := h
          cases h
          obtain ⟨hds, hcs⟩ := digits_of_digits? hdigits
        · have hs : [s] ∈ [[], ['+'], ['-']] := by simpa using hsign
          exact ⟨.digits he hs hds, by rw [hcs]; rfl⟩
        · exact ⟨.digits he List.mem_cons_self hds, by rw [hcs]; rfl⟩
      · cases h
    · cases h
      exact ⟨.absent, rfl⟩
  · cases h
    exact ⟨.absent, rfl⟩

theorem number?_of_parts {sign whole fraction exponent cs₁ cs₂ : List Char}
    (hsign : sign ∈ [[], ['-']]) (hhead : cs.head? ≠ some '-')
    (hwhole : whole? cs = some (whole, cs₁)) (hfraction : fraction? cs₁ = some (fraction, cs₂))
    (hexponent : exponent? cs₂ = some (exponent, rest)) :
    number? (sign ++ cs) =
      some (String.ofList (sign ++ whole ++ fraction ++ exponent), rest) := by
  simp only [List.mem_cons, List.not_mem_nil, or_false] at hsign
  obtain rfl | rfl := hsign
  · rw [List.nil_append, number?]
    · simp [hwhole, hfraction, hexponent]
    · rintro ds rfl
      exact hhead rfl
  · simp [number?, hwhole, hfraction, hexponent]

/-- **A number is read to its end.** -/
theorem number?_append {t : List Char} (h : Number t) (hrest : Ends rest) :
    number? (t ++ rest) = some (String.ofList t, rest) := by
  obtain ⟨hsign, hwhole, hfraction, hexponent⟩ := h
  next sign whole fraction exponent =>
  have hexp : ∀ c ∈ (exponent ++ rest).head?, c.isDigit = false ∧ c ≠ '.' := by
    cases hexponent with
    | absent => exact fun c hc => ⟨(hrest c hc).1, (hrest c hc).2.1⟩
    | digits he =>
      rintro c ⟨⟩
      simp only [List.mem_cons, List.not_mem_nil, or_false] at he
      obtain rfl | rfl := he <;> decide
  have hfrac : NoDigit (fraction ++ (exponent ++ rest)) := by
    cases hfraction with
    | absent => exact fun c hc => (hexp c hc).1
    | digits => rintro c ⟨⟩; decide
  have hminus : (whole ++ (fraction ++ (exponent ++ rest))).head? ≠ some '-' := by
    obtain ⟨d, ds, rfl⟩ := List.exists_cons_of_ne_nil hwhole.1.1
    rintro ⟨⟩
    cases hwhole.1.2 '-' List.mem_cons_self
  have hread := number?_of_parts hsign hminus (whole?_append hwhole hfrac)
    (fraction?_append hfraction (fun c hc => (hexp c hc).1)
      (fun hpoint => (hexp '.' hpoint).2 rfl))
    (exponent?_append hexponent hrest)
  simpa using hread

theorem number_of_number? {s : String} (h : number? cs = some (s, rest)) :
    Number s.toList ∧ cs = s.toList ++ rest := by
  unfold number? at h
  split at h
  next sign more hsplit =>
  have hsign : sign ∈ [[], ['-']] ∧ cs = sign ++ more := by
    split at hsplit <;> cases hsplit <;> simp
  obtain ⟨hsign, rfl⟩ := hsign
  simp only [Option.bind_eq_bind, Option.bind_eq_some_iff] at h
  obtain ⟨⟨whole, cs₁⟩, hwhole, ⟨fraction, cs₂⟩, hfraction, ⟨exponent, cs₃⟩, hexponent, h⟩ := h
  cases h
  obtain ⟨hw, rfl⟩ := whole_of_whole? hwhole
  obtain ⟨hf, rfl⟩ := fraction_of_fraction? hfraction
  obtain ⟨he, rfl⟩ := exponent_of_exponent? hexponent
  rw [String.toList_ofList]
  exact ⟨.mk hsign hw hf he, by simp⟩

/-! ## Strings -/

theorem toNat_lt_of_hexValue? {c : Char} {v : Nat} (h : hexValue? c = some v) : c.toNat < 0x67 := by
  have hle : ∀ {d : Char}, c ≤ d → c.toNat ≤ d.toNat := fun hcd => Char.le_def.1 hcd
  unfold hexValue? at h
  split_ifs at h with hdigit hlower hupper
  · have h9 : c.toNat ≤ '9'.toNat := hle (by simp [Char.isDigit] at hdigit; exact hdigit.2)
    exact Nat.lt_of_le_of_lt h9 (by decide)
  · have hf : c.toNat ≤ 'f'.toNat := hle (by simp at hlower; exact hlower.2)
    exact Nat.lt_of_le_of_lt hf (by decide)
  · have hF : c.toNat ≤ 'F'.toNat := hle (by simp at hupper; exact hupper.2)
    exact Nat.lt_of_le_of_lt hF (by decide)

/-- **The value of a hexadecimal digit is read.** -/
theorem hexValue?_eq_some_iff {c : Char} {v : Nat} : hexValue? c = some v ↔ HexDigit v c := by
  constructor
  · intro h
    have hdigit : ∀ n < 0x67, ∀ v ∈ hexValue? (Char.ofNat n),
        "0123456789abcdef".toList[v]? = some (Char.ofNat n) ∨
        "0123456789ABCDEF".toList[v]? = some (Char.ofNat n) := by decide
    have hc := hdigit c.toNat (toNat_lt_of_hexValue? h)
    rw [Char.ofNat_toNat] at hc
    exact hc v h
  · have hread : ∀ v < 16, "0123456789abcdef".toList[v]?.bind hexValue? = some v ∧
        "0123456789ABCDEF".toList[v]?.bind hexValue? = some v := by decide
    have hbound : ∀ {ds : List Char}, ds.length = 16 → ds[v]? = some c → v < 16 := by
      intro ds hlen hv
      rw [← hlen]
      exact (List.getElem?_eq_some_iff.1 hv).1
    rintro (h | h)
    · have hv := (hread v (hbound rfl h)).1
      rwa [h, Option.bind_some] at hv
    · have hv := (hread v (hbound rfl h)).2
      rwa [h, Option.bind_some] at hv

theorem escape?_eq_some_iff {e c : Char} : escape? e = some c ↔ (e, c) ∈ letterEscapes := by
  unfold escape?
  split <;> simp_all [letterEscapes, eq_comm]

/-- **A code is read from any of its spellings.** -/
theorem codes?_append_code {n : Nat} {t : List Char} (h : SpellsCode n t) (cs : List Char) :
    codes? (t ++ cs) = (codes? cs).map fun (codes, after) => (n :: codes, after) := by
  cases h with
  | @plain c hc hquote hslash =>
    have hplain : (c == '\\' || decide (c.toNat < 0x20)) = false := by
      simp only [Bool.or_eq_false_iff, beq_eq_false_iff_ne, decide_eq_false_iff_not]
      exact ⟨hslash, Nat.not_lt.2 hc⟩
    rw [List.singleton_append, codes?, if_neg (by simpa using hquote), hplain]
    · rfl
    all_goals exact fun _ => by intros; contradiction
  | @letter e c he =>
    have hread := escape?_eq_some_iff.2 he
    have hletter : e ≠ 'u' := by
      rintro rfl
      cases hread
    rw [List.cons_append, List.singleton_append, codes?]
    · simp only [hread, Option.bind_eq_bind, Option.bind_some]
      exact Option.map_eq_bind.symm
    · exact fun _ _ _ _ _ hu => absurd hu hletter
  | hex ha hb hc hd =>
    simp only [List.cons_append, List.nil_append, codes?, hex4?, hexValue?_eq_some_iff.2 ha,
      hexValue?_eq_some_iff.2 hb, hexValue?_eq_some_iff.2 hc, hexValue?_eq_some_iff.2 hd,
      Option.bind_eq_bind, Option.bind_some, Option.pure_def]
    exact Option.map_eq_bind.symm

/-- Codes are read up to the closing quote. -/
theorem codes?_append {ns : List Nat} {t : List Char} (h : SpellsCodes ns t) (rest : List Char) :
    codes? (t ++ '"' :: rest) = some (ns, rest) := by
  induction h with
  | nil => simp [codes?]
  | cons hn _ ih => rw [List.append_assoc, codes?_append_code hn, ih, Option.map_some]

theorem spellsCode_of_hex4? {a b c d : Char} {n : Nat} (h : hex4? a b c d = some n) :
    SpellsCode n ['\\', 'u', a, b, c, d] := by
  simp only [hex4?, Option.bind_eq_bind, Option.bind_eq_some_iff, Option.pure_def,
    Option.some.injEq, hexValue?_eq_some_iff] at h
  obtain ⟨i, ha, j, hb, k, hc, l, hd, rfl⟩ := h
  exact .hex ha hb hc hd

/-- **Whatever codes are read are spelled, and a quote follows them.** -/
theorem spellsCodes_of_codes? {ns : List Nat} (h : codes? cs = some (ns, rest)) :
    ∃ t, SpellsCodes ns t ∧ cs = t ++ '"' :: rest := by
  fun_induction codes? cs generalizing ns with
  | case1 => cases h
  | case2 a b c d more ih =>
    simp only [Option.bind_eq_bind, Option.bind_eq_some_iff] at h
    obtain ⟨n, hn, ⟨codes, after⟩, hmore, h⟩ := h
    cases h
    obtain ⟨t, ht, rfl⟩ := ih hmore
    exact ⟨_, .cons (spellsCode_of_hex4? hn) ht, rfl⟩
  | case3 e more _ ih =>
    simp only [Option.bind_eq_bind, Option.bind_eq_some_iff] at h
    obtain ⟨c, hc, ⟨codes, after⟩, hmore, h⟩ := h
    cases h
    obtain ⟨t, ht, rfl⟩ := ih hmore
    exact ⟨_, .cons (.letter (escape?_eq_some_iff.1 hc)) ht, rfl⟩
  | case4 c more _ _ hquote =>
    cases h
    exact ⟨[], .nil, by rw [eq_of_beq hquote]; rfl⟩
  | case5 => cases h
  | case6 c more _ _ hquote hplain ih =>
    simp only [Option.map_eq_some_iff] at h
    obtain ⟨⟨codes, after⟩, hmore, h⟩ := h
    cases h
    obtain ⟨t, ht, rfl⟩ := ih hmore
    simp only [Bool.or_eq_true, beq_iff_eq, decide_eq_true_eq, not_or, Nat.not_lt] at hquote hplain
    exact ⟨_, .cons (.plain hplain.2 hquote hplain.1) ht, rfl⟩

theorem isSurrogate_toNat (c : Char) : isSurrogate c.toNat = false := by
  have hvalid : c.toNat < 0xD800 ∨ 0xDFFF < c.toNat ∧ c.toNat < 0x110000 := c.valid
  simp only [isSurrogate, Bool.and_eq_false_iff, decide_eq_false_iff_not]
  omega

theorem charsOf?_cons (c : Char) (ns : List Nat) :
    charsOf? (c.toNat :: ns) = (charsOf? ns).map (c :: ·) := by
  cases ns <;> simp [charsOf?, isSurrogate_toNat, Char.ofNat_toNat]

/-- **The characters of codes are found.** -/
theorem charsOf?_of_denotes {ns : List Nat} (h : Denotes ns cs) : charsOf? ns = some cs := by
  induction h with
  | nil => rfl
  | one _ ih => rw [charsOf?_cons, ih, Option.map_some]
  | @pair high low c ns cs h₁ h₂ h₃ h₄ hc _ ih =>
    have hhigh : isSurrogate high = true := by
      simp only [isSurrogate, Bool.and_eq_true, decide_eq_true_eq]
      omega
    simp [charsOf?, hhigh, h₂, h₃, h₄, ← hc, Char.ofNat_toNat, ih]

theorem code_lt {n : Nat} {t : List Char} (h : SpellsCode n t) : n < 0x110000 := by
  have hchar : ∀ c : Char, c.toNat < 0x110000 := by
    intro c
    have hvalid : c.toNat < 0xD800 ∨ 0xDFFF < c.toNat ∧ c.toNat < 0x110000 := c.valid
    omega
  cases h with
  | plain => exact hchar _
  | letter => exact hchar _
  | hex ha hb hc hd =>
    have hlt : ∀ {v : Nat} {c : Char}, HexDigit v c → v < 16 := by
      rintro v c (h | h) <;> exact (List.getElem?_eq_some_iff.1 h).1
    have := hlt ha
    have := hlt hb
    have := hlt hc
    have := hlt hd
    omega

theorem codes_lt {ns : List Nat} {t : List Char} (h : SpellsCodes ns t) :
    ∀ n ∈ ns, n < 0x110000 := by
  induction h with
  | nil => simp
  | cons hn _ ih => exact List.forall_mem_cons.2 ⟨code_lt hn, ih⟩

theorem toNat_ofNat {n : Nat} (hlt : n < 0x110000) (h : isSurrogate n = false) :
    (Char.ofNat n).toNat = n := by
  apply Text.toNat_ofNat
  simp only [isSurrogate, Bool.and_eq_false_iff, decide_eq_false_iff_not] at h
  simp only [Nat.isValidChar]
  omega

/-- Whatever characters are found for codes are denoted by them. -/
theorem denotes_of_charsOf? {ns : List Nat} (hlt : ∀ n ∈ ns, n < 0x110000)
    (h : charsOf? ns = some cs) : Denotes ns cs := by
  fun_induction charsOf? ns generalizing cs with
  | case1 =>
    cases h
    exact .nil
  | case2 a hsurrogate b more hpair ih =>
    simp only [Option.map_eq_some_iff] at h
    obtain ⟨ds, hmore, rfl⟩ := h
    simp only [List.forall_mem_cons] at hlt
    simp only [isSurrogate, Bool.and_eq_true, decide_eq_true_eq] at hsurrogate hpair
    have hchar : isSurrogate (0x10000 + (a - 0xD800) * 0x400 + (b - 0xDC00)) = false := by
      simp only [isSurrogate, Bool.and_eq_false_iff, decide_eq_false_iff_not]
      omega
    exact .pair hsurrogate.1 hpair.1.1 hpair.1.2 hpair.2 (toNat_ofNat (by omega) hchar)
      (ih hlt.2.2 hmore)
  | case3 => cases h
  | case4 => cases h
  | case5 a more hsurrogate ih =>
    simp only [Option.map_eq_some_iff] at h
    obtain ⟨ds, hmore, rfl⟩ := h
    rw [List.forall_mem_cons] at hlt
    have hdenotes := Denotes.one (c := Char.ofNat a) (ih hlt.2 hmore)
    rwa [toNat_ofNat hlt.1 (Bool.eq_false_iff.2 hsurrogate)] at hdenotes

/-- **A string is read, and is found to be a text exactly when it is one.** -/
theorem string?_append {s : Option String} {t : List Char} (h : SpellsString s t) :
    ∃ u, t = '"' :: u ∧ ∀ rest, string? (u ++ rest) = some (s, rest) := by
  cases h with
  | @text s codes u hcodes hdenotes =>
    refine ⟨u ++ ['"'], rfl, fun rest => ?_⟩
    simp [string?, codes?_append hcodes, charsOf?_of_denotes hdenotes]
  | @noText codes u hcodes hdenotes =>
    refine ⟨u ++ ['"'], rfl, fun rest => ?_⟩
    have hnone : charsOf? codes = none :=
      Option.eq_none_iff_forall_ne_some.2 fun cs hcs =>
        hdenotes cs (denotes_of_charsOf? (codes_lt hcodes) hcs)
    simp [string?, codes?_append hcodes, hnone]

theorem spellsString_of_string? {s : Option String} (h : string? cs = some (s, rest)) :
    ∃ t, SpellsString s ('"' :: t) ∧ cs = t ++ rest := by
  simp only [string?, Option.bind_eq_bind, Option.bind_eq_some_iff] at h
  obtain ⟨⟨codes, after⟩, hcodes, h⟩ := h
  cases h
  obtain ⟨t, ht, rfl⟩ := spellsCodes_of_codes? hcodes
  refine ⟨t ++ ['"'], ?_, by simp⟩
  cases hchars : charsOf? codes with
  | none =>
    refine .noText ht fun cs hcs => ?_
    rw [charsOf?_of_denotes hcs] at hchars
    cases hchars
  | some cs =>
    refine .text ht ?_
    rw [String.toList_ofList]
    exact denotes_of_charsOf? (codes_lt ht) hchars

end Clinker.Json

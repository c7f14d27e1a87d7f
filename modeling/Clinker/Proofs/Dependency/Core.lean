import Clinker.Proofs.Dependency.Beneath
import Clinker.Proofs.Dependency.InFolder

/-!
# The core of a path

A path that is not blank is its core, with separators after it and white space around both
(`exists_core`). The core neither begins with white space nor ends in a separator, unless it is a
single one. Nothing else of a path is in its form: the form is the core in lower case with forward
separators (`IsCore.normalChars_eq`).

So all spellings of a path have one form (`normalForm_eq_of_spells`): they differ in what stands
around the core, in the separators, and in the case of ASCII letters. Of the paths in ASCII no other
has this form. Of all others, those do whose cores agree in lower case
(`exists_core_of_normalChars_eq`), which may be longer or shorter than the path: lower case in the
full sense depends on the neighbours of a letter, but not on white space and separators.
-/

namespace Clinker.Dependency

/-! ## Cores -/

/-- The path has neither white space in front nor a separator at its end that its form lacks. -/
structure IsCore (core : List Char) : Prop where
  ne_nil : core ≠ []
  head : ∀ c ∈ core.head?, Text.isSpace c = false
  last : IsLoneSeparator core ∨ ∀ c ∈ core.getLast?, isPathSeparator c = false

theorem forwardSeparators_of_forall {seps : List Char}
    (h : ∀ c ∈ seps, isPathSeparator c = true) : ∀ c ∈ forwardSeparators seps, c = '/' := by
  intro c hc
  rw [forwardSeparators_eq_map, List.mem_map] at hc
  obtain ⟨c, hc, rfl⟩ := hc
  exact slash_of_isPathSeparator (h c hc)

/-- **The form of a path is its core in lower case** with forward separators. -/
theorem IsCore.normalChars_eq {core : List Char} (h : IsCore core) {seps cs : List Char}
    (hseps : ∀ c ∈ seps, isPathSeparator c = true) (hcs : Text.trimChars cs = core ++ seps) :
    normalChars cs = Text.lowerChars (forwardSeparators core) := by
  have hlower : Text.lowerChars (forwardSeparators core) ≠ [] := by
    rw [ne_eq, Text.lowerChars_eq_nil_iff, forwardSeparators, List.map_eq_nil_iff]
    exact h.ne_nil
  rw [normalChars, hcs, forwardSeparators_append,
    Text.lowerChars_append_of_forall (forwardSeparators_of_forall hseps),
    dropEndSeparators_append_of_forall (forwardSeparators_of_forall hseps) hlower]
  rcases h.last with hlone | hlast
  · rcases hlone with rfl | rfl <;> decide +kernel
  · apply dropEndSeparators_of_getLast?
    have hconcat := List.dropLast_concat_getLast h.ne_nil
    have hslash := slash_ne_slash (hlast _ (List.getLast?_eq_some_getLast h.ne_nil))
    rw [← hconcat, forwardSeparators_append]
    exact Text.getLast?_lowerChars_ne_slash hslash _

/-- **A path that is not blank has a core.** -/
theorem exists_core {cs : List Char} (h : ¬ ∀ c ∈ cs, Text.isSpace c = true) :
    ∃ core seps, IsCore core ∧ (∀ c ∈ seps, isPathSeparator c = true) ∧
      Text.trimChars cs = core ++ seps := by
  have hne : Text.trimChars cs ≠ [] := by
    rwa [ne_eq, Text.trimChars_eq_nil_iff]
  have hhead := (Text.trimmed_trimChars cs).1
  by_cases hkept : Text.dropEndWhile isPathSeparator (Text.trimChars cs) = []
  · -- There is nothing but separators, and the first of them is the core.
    have hall := Text.dropEndWhile_eq_nil_iff.1 hkept
    cases htrim : Text.trimChars cs with
    | nil => exact absurd htrim hne
    | cons sep seps =>
      rw [htrim, List.forall_mem_cons] at hall
      have hlone := isLoneSeparator_singleton hall.1
      refine ⟨[sep], seps, ⟨List.cons_ne_nil _ _, ?_, .inl hlone⟩, hall.2, rfl⟩
      simpa using isSpace_of_isPathSeparator hall.1
  · have hsplit : Text.dropEndWhile isPathSeparator (Text.trimChars cs) ++
        (Text.trimChars cs).rtakeWhile isPathSeparator = Text.trimChars cs :=
      List.rdropWhile_append_rtakeWhile
    refine ⟨_, _, ⟨hkept, ?_, .inr (Text.getLast?_dropEndWhile isPathSeparator _)⟩,
      fun c hc => List.mem_rtakeWhile_imp hc, hsplit.symm⟩
    rwa [← hsplit, List.head?_append_of_ne_nil _ hkept] at hhead

/-! ## Paths with one form -/

/-- The first path is a spelling of the second one: it differs in the case of ASCII letters and in
which separators it uses, and has separators after it and white space around both. -/
def Spells (q p : List Char) : Prop :=
  ∃ before respelled seps after, q = before ++ (respelled ++ seps) ++ after ∧
    Respelled respelled p ∧ (∀ c ∈ before, Text.isSpace c = true) ∧
    (∀ c ∈ seps, isPathSeparator c = true) ∧ ∀ c ∈ after, Text.isSpace c = true

theorem Respelled.trimmed {a b : List Char} (h : Respelled a b) (hb : Text.Trimmed b) :
    Text.Trimmed a := by
  rwa [← Text.trimmed_map_iff isSpace_folded, h, Text.trimmed_map_iff isSpace_folded]

theorem Respelled.ne_nil {a b : List Char} (h : Respelled a b) (hb : b ≠ []) : a ≠ [] := by
  rintro rfl
  exact hb (List.map_eq_nil_iff.1 h.symm)

/-- **A spelling of a path has its form.** -/
theorem Spells.normalChars_eq {q p : List Char} (h : Spells q p) (htrim : Text.Trimmed p)
    (hne : p ≠ []) : normalChars q = normalChars p := by
  obtain ⟨before, respelled, seps, after, rfl, hrespelled, hbefore, hseps, hafter⟩ := h
  have hnil := hrespelled.ne_nil hne
  have htrim' := hrespelled.trimmed htrim
  -- The separators that follow are no more part of the core than those the path ends in.
  obtain ⟨core, more, hcore, hmore, hsplit⟩ := exists_core (htrim'.not_blank hnil)
  have hframed : Text.trimChars (before ++ (respelled ++ seps) ++ after) = core ++ (more ++ seps) := by
    have hwhole : Text.Trimmed (respelled ++ seps) :=
      htrim'.append hnil fun c hc => isSpace_of_isPathSeparator (hseps c hc)
    rw [hwhole.trimChars_between (List.append_ne_nil_of_left_ne_nil hnil _) hbefore hafter,
      ← List.append_assoc, ← hsplit, htrim'.trimChars_eq]
  calc normalChars (before ++ (respelled ++ seps) ++ after)
      = Text.lowerChars (forwardSeparators core) :=
        hcore.normalChars_eq (List.forall_mem_append.2 ⟨hmore, hseps⟩) hframed
    _ = normalChars respelled := (hcore.normalChars_eq hmore hsplit).symm
    _ = normalChars p := hrespelled.normalChars_eq

/-- **Paths with one form have cores that agree in lower case.** -/
theorem exists_core_of_normalChars_eq {q p : List Char} (hp : IsCore p) (htrim : Text.Trimmed p)
    (h : normalChars q = normalChars p) :
    ∃ before core seps after, q = before ++ (core ++ seps) ++ after ∧
      Text.lowerChars (forwardSeparators core) = Text.lowerChars (forwardSeparators p) ∧
      (∀ c ∈ before, Text.isSpace c = true) ∧ (∀ c ∈ seps, isPathSeparator c = true) ∧
      ∀ c ∈ after, Text.isSpace c = true := by
  have hblank : ¬ ∀ c ∈ q, Text.isSpace c = true := by
    rw [← normalChars_eq_nil_iff, h, normalChars_eq_nil_iff]
    exact htrim.not_blank hp.ne_nil
  obtain ⟨core, seps, hcore, hseps, hsplit⟩ := exists_core hblank
  obtain ⟨before, after, hbefore, hafter, hq⟩ := Text.exists_between_trimChars q
  refine ⟨before, core, seps, after, hsplit ▸ hq, ?_, hbefore, hseps, hafter⟩
  have hself : Text.trimChars p = p ++ [] := by rw [htrim.trimChars_eq, List.append_nil]
  rw [← hcore.normalChars_eq hseps hsplit, h, hp.normalChars_eq (by simp) hself]

/-- In ASCII, paths that agree in lower case are spelled alike but for ASCII letters and
separators. -/
theorem respelled_of_ascii {a b : List Char} (ha : ∀ c ∈ a, c.toNat < 128)
    (hb : ∀ c ∈ b, c.toNat < 128)
    (h : Text.lowerChars (forwardSeparators a) = Text.lowerChars (forwardSeparators b)) :
    Respelled a b := by
  have hlower : ∀ {cs : List Char}, (∀ c ∈ cs, c.toNat < 128) →
      Text.lowerChars (forwardSeparators cs) = cs.map folded := by
    intro cs hcs
    have hslash : ∀ c ∈ forwardSeparators cs, c.toNat < 128 := by
      intro c hc
      rw [forwardSeparators_eq_map, List.mem_map] at hc
      obtain ⟨c, hc, rfl⟩ := hc
      unfold slash
      split
      · decide
      · exact hcs c hc
    rw [Text.lowerChars, Text.lowerFrom_of_ascii hslash, forwardSeparators_eq_map, List.map_map]
    rfl
  rwa [hlower ha, hlower hb] at h

/-- **All spellings of a path have one form**, also where the lower case of a letter depends on its
neighbours. In ASCII nothing else has this form, if the path does not itself end in separators that
its form lacks. -/
theorem normalForm_eq_of_spells {p : String} (hne : p ≠ "") (htrim : Text.Trimmed p.toList) :
    (∀ q : String, Spells q.toList p.toList → normalForm q = normalForm p) ∧
    ((IsLoneSeparator p.toList ∨ ∀ c ∈ p.toList.getLast?, isPathSeparator c = false) →
      (∀ c ∈ p.toList, c.toNat < 128) → ∀ q : String, (∀ c ∈ q.toList, c.toNat < 128) →
        normalForm q = normalForm p → Spells q.toList p.toList) := by
  have hnil : p.toList ≠ [] := by simpa using hne
  constructor
  · intro q hq
    apply String.toList_injective
    rw [toList_normalForm, toList_normalForm]
    exact hq.normalChars_eq htrim hnil
  · intro hlast hascii q hascii' h
    have hchars : normalChars q.toList = normalChars p.toList := by
      rw [← toList_normalForm, h, toList_normalForm]
    obtain ⟨before, core, seps, after, hq, hlower, hbefore, hseps, hafter⟩ :=
      exists_core_of_normalChars_eq ⟨hnil, htrim.1, hlast⟩ htrim hchars
    have hcore : ∀ c ∈ core, c.toNat < 128 := by
      intro c hc
      apply hascii'
      rw [hq]
      simp [hc]
    exact ⟨before, core, seps, after, hq, respelled_of_ascii hcore hascii hlower, hbefore, hseps,
      hafter⟩

/-- A word that ends in a sigma ends in one as well when separators follow it. -/
theorem normalForm_finalSigma :
    Text.Trimmed "C:\\ΟΔΟΣ".toList ∧ Spells "\t c:/ΟΔΟΣ\\/ ".toList "C:\\ΟΔΟΣ".toList ∧
    normalForm "\t c:/ΟΔΟΣ\\/ " = normalForm "C:\\ΟΔΟΣ" ∧ normalForm "C:\\ΟΔΟΣ" = "c:/οδος" := by
  have htrim : Text.Trimmed "C:\\ΟΔΟΣ".toList := by decide
  have hspells : Spells "\t c:/ΟΔΟΣ\\/ ".toList "C:\\ΟΔΟΣ".toList :=
    ⟨['\t', ' '], "c:/ΟΔΟΣ".toList, ['\\', '/'], [' '], by decide, by decide,
      List.all_eq_true.1 (by decide), List.all_eq_true.1 (by decide),
      List.all_eq_true.1 (by decide)⟩
  exact ⟨htrim, hspells, (normalForm_eq_of_spells (by decide) htrim).1 _ hspells,
    by decide +kernel⟩

end Clinker.Dependency

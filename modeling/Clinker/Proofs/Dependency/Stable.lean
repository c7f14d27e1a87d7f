import Clinker.Proofs.Dependency.Core
import Clinker.Proofs.Dependency.Headers

/-!
# Bringing a form into its form

A form that neither begins nor ends in white space is its own form
(`normalChars_normalChars_iff`). It always begins with something else, but it may end in white space:
that is only dropped around the whole path, before the separators at its end are. So the form of a
path changes when it is brought into its form once more exactly if, in the path, white space stands
before the separators at its end (`SpaceBeforeSeparators`), and the headers of a record can be
recorded once more if none of them comes from such a path (`normalForm_stable_iff`).
-/

namespace Clinker.Dependency

/-! ## What all forms have in common -/

/-- Neither the choice of separators nor the case of letters can change any more. -/
def Settled (cs : List Char) : Prop := ∀ c ∈ cs, slash c = c ∧ Text.lowerChar c = [c]

theorem Settled.lowerChars_eq {cs : List Char} (h : Settled cs) :
    Text.lowerChars (forwardSeparators cs) = cs := by
  have hslash : forwardSeparators cs = cs := by
    have hid : cs.map slash = cs.map id := List.map_congr_left fun c hc => (h c hc).1
    rw [forwardSeparators_eq_map, hid, List.map_id]
  rw [hslash, Text.lowerChars, Text.lowerFrom_of_lowered fun c hc => (h c hc).2]

theorem mem_stillCodes_of_isPathSeparator {c : Char} (h : isPathSeparator c = true) :
    c.toNat ∈ Text.stillCodes := by
  rw [isPathSeparator, Bool.or_eq_true, beq_iff_eq, beq_iff_eq] at h
  rcases h with rfl | rfl <;> decide

theorem settled_lowerChars (cs : List Char) :
    Settled (Text.lowerChars (forwardSeparators cs)) := by
  intro d hd
  refine ⟨?_, Text.lowerChar_of_mem_lowerChars hd⟩
  obtain ⟨c, hc, himage⟩ := Text.mem_lowerFrom hd
  rw [forwardSeparators_eq_map, List.mem_map] at hc
  obtain ⟨c, -, rfl⟩ := hc
  apply if_neg
  rw [beq_iff_eq]
  rintro rfl
  have hback := Text.eq_of_mem_lowerImages_of_still himage (.inr (by decide))
  exact slash_ne_backslash c hback.symm

theorem isPathSeparator_slash (c : Char) : isPathSeparator (slash c) = isPathSeparator c := by
  unfold slash
  split
  · next h =>
    rw [beq_iff_eq] at h
    subst h
    rfl
  · rfl

/-- Whether a path ends in white space or in a separator is not changed. -/
theorem getLast?_lowerChars_iff {p : Char → Bool} (hp : ∀ c, p c = true → c.toNat ∈ Text.stillCodes)
    (hslash : ∀ c, p (slash c) = p c) (cs : List Char) :
    (∀ c ∈ (Text.lowerChars (forwardSeparators cs)).getLast?, p c = false) ↔
      ∀ c ∈ cs.getLast?, p c = false := by
  cases cs using List.reverseRecOn with
  | nil => exact Iff.rfl
  | append_singleton front c =>
    obtain ⟨d, ds, himage, heq⟩ :=
      Text.exists_image_lowerChars_concat (slash c) (forwardSeparators front)
    have hlast : forwardSeparators (front ++ [c]) = forwardSeparators front ++ [slash c] :=
      forwardSeparators_append front [c]
    rw [hlast, heq, List.getLast?_concat, List.getLast?_concat]
    simp [Text.still_congr hp himage, hslash]

/-- **The form of a path that is not blank is a core.** -/
theorem IsCore.lowerChars {core : List Char} (h : IsCore core) :
    IsCore (Text.lowerChars (forwardSeparators core)) := by
  obtain ⟨hne, hhead, hlast⟩ := h
  refine ⟨?_, ?_, ?_⟩
  · rw [ne_eq, Text.lowerChars_eq_nil_iff, forwardSeparators, List.map_eq_nil_iff]
    exact hne
  · obtain ⟨c, rest, rfl⟩ := List.exists_cons_of_ne_nil hne
    obtain ⟨d, ds, himage, heq⟩ :=
      Text.exists_image_lowerFrom_cons (slash c) [] (forwardSeparators rest)
    have hspace := Text.still_congr (fun _ => Text.mem_stillCodes_of_isSpace) himage
    rw [forwardSeparators_cons, Text.lowerChars, heq]
    simpa [hspace, isSpace_slash] using hhead
  · rcases hlast with hlone | hlast
    · left
      rcases hlone with rfl | rfl <;> decide +kernel
    · right
      rwa [getLast?_lowerChars_iff (fun _ => mem_stillCodes_of_isPathSeparator)
        isPathSeparator_slash]

/-! ## Forms of forms -/

/-- A path that is its own form is trimmed: what trimming takes away is not in the form. -/
theorem trimmed_of_normalChars_eq_self {cs : List Char} (hsettled : Settled cs)
    (h : normalChars cs = cs) : Text.Trimmed cs := by
  by_cases hblank : ∀ c ∈ cs, Text.isSpace c = true
  · rw [← h, normalChars_eq_nil_iff.2 hblank]
    decide
  · obtain ⟨core, seps, hcore, hseps, hsplit⟩ := exists_core hblank
    obtain ⟨before, after, -, -, hcs⟩ := Text.exists_between_trimChars cs
    have hmem : Settled core := by
      intro c hc
      apply hsettled
      rw [hcs, hsplit]
      simp [hc]
    -- The path is its core, so nothing stands around it.
    have hform : cs = core := by
      rw [← hmem.lowerChars_eq, ← hcore.normalChars_eq hseps hsplit, h]
    have hlength := congrArg List.length hcs
    rw [hsplit, ← hform] at hlength
    simp only [List.length_append] at hlength
    have hbefore : before = [] := List.length_eq_zero_iff.1 (by omega)
    have hafter : after = [] := List.length_eq_zero_iff.1 (by omega)
    rw [hbefore, hafter, List.nil_append, List.append_nil] at hcs
    rw [hcs]
    exact Text.trimmed_trimChars cs

/-- **A form is its own form if it does not end in white space**, and only then. -/
theorem normalChars_normalChars_iff (cs : List Char) :
    normalChars (normalChars cs) = normalChars cs ↔
      ∀ c ∈ (normalChars cs).getLast?, Text.isSpace c = false := by
  by_cases hblank : ∀ c ∈ cs, Text.isSpace c = true
  · rw [normalChars_eq_nil_iff.2 hblank]
    simp [normalChars_eq_nil_iff]
  · obtain ⟨core, seps, hcore, hseps, hsplit⟩ := exists_core hblank
    rw [hcore.normalChars_eq hseps hsplit]
    constructor
    · intro h
      exact (trimmed_of_normalChars_eq_self (settled_lowerChars core) h).2
    · intro hlast
      have hform := hcore.lowerChars
      have htrim : Text.Trimmed (Text.lowerChars (forwardSeparators core)) := ⟨hform.head, hlast⟩
      have hself : Text.trimChars (Text.lowerChars (forwardSeparators core)) =
          Text.lowerChars (forwardSeparators core) ++ [] := by
        rw [htrim.trimChars_eq, List.append_nil]
      rw [hform.normalChars_eq (by simp) hself, (settled_lowerChars core).lowerChars_eq]

/-- White space stands before the separators at the end of the path. -/
def SpaceBeforeSeparators (path : List Char) : Prop :=
  ∃ front space seps, Text.isSpace space = true ∧ seps ≠ [] ∧
    (∀ c ∈ seps, isPathSeparator c = true) ∧ Text.trimChars path = front ++ space :: seps

/-- The core of a path ends in white space exactly if it stands before separators. -/
theorem IsCore.spaceBeforeSeparators_iff {core : List Char} (h : IsCore core)
    {seps cs : List Char} (hseps : ∀ c ∈ seps, isPathSeparator c = true)
    (hcs : Text.trimChars cs = core ++ seps) :
    SpaceBeforeSeparators cs ↔ ¬ ∀ c ∈ core.getLast?, Text.isSpace c = false := by
  constructor
  · rintro ⟨front, space, seps', hspace, -, hseps', hsplit⟩ hlast
    have hfree : isPathSeparator space = false := by
      rw [← Bool.not_eq_true]
      intro hsep
      rw [isSpace_of_isPathSeparator hsep] at hspace
      cases hspace
    -- Both sides lose their separators, and the one that is left ends in white space.
    have hkept : Text.dropEndWhile isPathSeparator core = front ++ [space] := by
      rw [← Text.dropEndWhile_append_of_forall hseps, ← hcs, hsplit, List.append_cons,
        Text.dropEndWhile_append_of_forall hseps', Text.dropEndWhile_of_getLast?]
      simpa using hfree
    rcases h.last with hlone | hend
    · rcases hlone with rfl | rfl <;> simp [Text.dropEndWhile, isPathSeparator] at hkept
    · rw [Text.dropEndWhile_of_getLast? hend] at hkept
      rw [hkept, List.getLast?_concat] at hlast
      rw [hlast space rfl] at hspace
      cases hspace
  · intro hlast
    obtain ⟨front, c, rfl⟩ : ∃ front c, core = front ++ [c] :=
      ⟨_, _, (List.dropLast_concat_getLast h.ne_nil).symm⟩
    have hspace : Text.isSpace c = true := by simpa using hlast
    refine ⟨front, c, seps, hspace, ?_, hseps, by rw [hcs, ← List.append_cons]⟩
    rintro rfl
    have htrim := (Text.trimmed_trimChars cs).2
    rw [hcs, List.append_nil, List.getLast?_concat] at htrim
    rw [htrim c rfl] at hspace
    cases hspace

/-- **The form of a path is stable unless white space stands before the separators at its end.** -/
theorem normalForm_normalForm_iff (path : String) :
    normalForm (normalForm path) = normalForm path ↔ ¬ SpaceBeforeSeparators path.toList := by
  rw [← String.toList_inj, toList_normalForm, toList_normalForm, normalChars_normalChars_iff]
  by_cases hblank : ∀ c ∈ path.toList, Text.isSpace c = true
  · rw [normalChars_eq_nil_iff.2 hblank]
    simp [SpaceBeforeSeparators, Text.trimChars_eq_nil_iff.2 hblank]
  · obtain ⟨core, seps, hcore, hseps, hsplit⟩ := exists_core hblank
    rw [hcore.normalChars_eq hseps hsplit, hcore.spaceBeforeSeparators_iff hseps hsplit, not_not,
      getLast?_lowerChars_iff (fun _ => Text.mem_stillCodes_of_isSpace) isSpace_slash]

/-! ## Recording headers again -/

/-- **Headers are recorded unchanged exactly if each of them is its own form** and worth
recording, and none of them is there twice. -/
theorem recordedHeaders_eq_self_iff {x : Exclusions} {forms : List String} :
    recordedHeaders x forms = forms ↔ forms.Nodup ∧
      ∀ form ∈ forms, normalForm form = form ∧ form ≠ "" ∧ x.excludes form = false := by
  constructor
  · intro h
    -- Recording only leaves out, so here nothing is left out.
    have hsub : (recordedHeaders x forms).Sublist (forms.map normalForm) :=
      List.filter_sublist.trans ((eraseDups_sublist _).trans List.filter_sublist)
    have hmap : recordedHeaders x forms = forms.map normalForm :=
      hsub.eq_of_length (by rw [h, List.length_map])
    have hfixed : forms.map normalForm = forms.map id := by rw [← hmap, h, List.map_id]
    refine ⟨h ▸ nodup_recordedHeaders x forms, fun form hform => ?_⟩
    have hkept := hform
    rw [← h, mem_recordedHeaders] at hkept
    exact ⟨List.map_eq_map_iff.1 hfixed form hform, hkept.2⟩
  · rintro ⟨hnodup, hforms⟩
    have hmap : forms.map normalForm = forms.map id :=
      List.map_congr_left fun form hform => (hforms form hform).1
    have hne : forms.filter (· != "") = forms := by
      rw [List.filter_eq_self]
      intro form hform
      simpa using (hforms form hform).2.1
    rw [recordedHeaders, hmap, List.map_id, hne, eraseDups_of_nodup hnodup, List.filter_eq_self]
    intro form hform
    simp [(hforms form hform).2.2]

/-- **Forms are stable, and so are records, unless white space stands before the separators at the
end of a path.** A form is its own form exactly if it does not come from such a path, and the headers
of a record are recorded unchanged once more exactly if none of them does. -/
theorem normalForm_stable_iff (path : String) (x : Exclusions) (object source : Path)
    (named : List String) :
    (normalForm (normalForm path) = normalForm path ↔ ¬ SpaceBeforeSeparators path.toList) ∧
    ((record x object source (record x object source named).headers).headers =
        (record x object source named).headers ↔
      ∀ header ∈ named, normalForm header ∈ (record x object source named).headers →
        ¬ SpaceBeforeSeparators header.toList) := by
  refine ⟨normalForm_normalForm_iff path, ?_⟩
  simp only [record]
  rw [recordedHeaders_eq_self_iff]
  constructor
  · rintro ⟨-, hforms⟩ header - hkept
    rw [← normalForm_normalForm_iff]
    exact (hforms _ hkept).1
  · intro hnone
    refine ⟨nodup_recordedHeaders x named, fun form hform => ?_⟩
    obtain ⟨⟨header, hheader, rfl⟩, hne, hexcluded⟩ := mem_recordedHeaders.1 hform
    exact ⟨(normalForm_normalForm_iff header).2 (hnone header hheader hform), hne, hexcluded⟩

/-- A form that ends in white space is not its own form, and a record that has it is not its own
record. -/
theorem normalForm_not_stable :
    normalForm (normalForm "a /") ≠ normalForm "a /" ∧
    (record .empty ⟨"a.obj"⟩ ⟨"a.cpp"⟩
        (record .empty ⟨"a.obj"⟩ ⟨"a.cpp"⟩ ["a /"]).headers).headers ≠
      (record .empty ⟨"a.obj"⟩ ⟨"a.cpp"⟩ ["a /"]).headers := by
  decide +kernel

end Clinker.Dependency

import Clinker.Installation
import Mathlib.Tactic.ByContra
import Mathlib.Tactic.SplitIfs

/-!
# Which installation is chosen

Two lists decide, and both by the same rule: the first element with some property is taken. Of the
candidates it is the first with an edition, of its editions the first that is present. `FirstWith`
is the rule, with the elements passed over written out, so that it also says which of several equal
elements is meant.

Candidates of the release asked for are tried in front of all candidates, and then once more among
them. The second try finds nothing new, because they were passed over by the property that is
looked for (`findSome?_tried_eq_some_iff`).
-/

namespace Clinker

variable {α : Type} {p : α → Prop} {xs : List α} {x y : α}

/-! ## First elements -/

/-- An element that has a property and stands behind none that has it. -/
def FirstWith (p : α → Prop) (xs : List α) (x : α) : Prop :=
  ∃ before after, xs = before ++ x :: after ∧ p x ∧ ∀ earlier ∈ before, ¬ p earlier

theorem not_firstWith_nil : ¬ FirstWith p [] x := by
  rintro ⟨before, after, h, -⟩
  simp at h

theorem firstWith_cons : FirstWith p (y :: xs) x ↔ y = x ∧ p x ∨ ¬ p y ∧ FirstWith p xs x := by
  constructor
  · rintro ⟨before, after, h, hx, hbefore⟩
    obtain ⟨rfl, hcons⟩ | ⟨before, rfl, rfl⟩ := List.cons_eq_append_iff.1 h
    · exact .inl ⟨(List.cons.inj hcons).1.symm, hx⟩
    · rw [List.forall_mem_cons] at hbefore
      exact .inr ⟨hbefore.1, before, after, rfl, hx, hbefore.2⟩
  · rintro (⟨rfl, hx⟩ | ⟨hy, before, after, rfl, hx, hbefore⟩)
    · exact ⟨[], xs, rfl, hx, by simp⟩
    · exact ⟨y :: before, after, rfl, hx, List.forall_mem_cons.2 ⟨hy, hbefore⟩⟩

/-- The first element among those with another property. -/
theorem firstWith_filter {r : α → Bool} :
    FirstWith p (xs.filter r) x ↔ FirstWith (fun y => r y = true ∧ p y) xs x := by
  induction xs with
  | nil => simp only [List.filter_nil, not_firstWith_nil]
  | cons y xs ih =>
    rw [List.filter_cons, firstWith_cons]
    split_ifs with hr
    · rw [firstWith_cons, ih]
      constructor
      · rintro (⟨rfl, hp⟩ | ⟨hp, hfirst⟩)
        · exact .inl ⟨rfl, hr, hp⟩
        · exact .inr ⟨fun h => hp h.2, hfirst⟩
      · rintro (⟨rfl, -, hp⟩ | ⟨hp, hfirst⟩)
        · exact .inl ⟨rfl, hp⟩
        · exact .inr ⟨fun h => hp ⟨hr, h⟩, hfirst⟩
    · rw [ih]
      constructor
      · exact fun hfirst => .inr ⟨fun h => hr h.1, hfirst⟩
      · rintro (⟨rfl, hr', -⟩ | ⟨-, hfirst⟩)
        · exact absurd hr' hr
        · exact hfirst

theorem find?_eq_some_iff_firstWith {r : α → Bool} :
    xs.find? r = some x ↔ FirstWith (r · = true) xs x := by
  rw [List.find?_eq_some_iff_append]
  constructor
  · rintro ⟨hx, before, after, hxs, hbefore⟩
    exact ⟨before, after, hxs, hx, fun earlier hmem => by simpa using hbefore earlier hmem⟩
  · rintro ⟨before, after, hxs, hx, hbefore⟩
    exact ⟨hx, before, after, hxs, fun earlier hmem => by simpa using hbefore earlier hmem⟩

/-! ## Editions of a candidate -/

namespace Candidate

variable {c : Candidate} {fs : FileSystem} {editions : List String} {i : Installation}

/-- An edition is present: its directory is there below the candidate's root. -/
def Offers (fs : FileSystem) (c : Candidate) (edition : String) : Prop :=
  fs.isDirectory (c.root.join ⟨edition⟩) = true

/-- Some listed edition is present. -/
def HasEdition (fs : FileSystem) (editions : List String) (c : Candidate) : Prop :=
  ∃ edition ∈ editions, c.Offers fs edition

/-- **A candidate gives its first edition that is present.** -/
theorem installation?_eq_some_iff : c.installation? fs editions = some i ↔
    ∃ edition, FirstWith (c.Offers fs) editions edition ∧
      i = ⟨c.root, c.version, edition, c.root.join ⟨edition⟩⟩ := by
  simp only [installation?, Option.map_eq_some_iff, find?_eq_some_iff_firstWith]
  exact exists_congr fun edition => and_congr_right fun _ => eq_comm

theorem installation?_eq_none_iff :
    c.installation? fs editions = none ↔ ¬ c.HasEdition fs editions := by
  simp [installation?, HasEdition, Offers]

end Candidate

/-! ## The choice -/

namespace Installation

variable {fs : FileSystem} {candidates : List Candidate} {editions : List String}
  {release : Option String} {i : Installation}

/-- The candidate that is preferred: the first with an edition among those of the release asked for
if there is one, otherwise the first with an edition. -/
def Preferred (fs : FileSystem) (candidates : List Candidate) (editions : List String)
    (release : Option String) (c : Candidate) : Prop :=
  FirstWith (fun d => release = some d.version ∧ d.HasEdition fs editions) candidates c ∨
    (∀ d ∈ candidates, release = some d.version → ¬ d.HasEdition fs editions) ∧
      FirstWith (fun d => d.HasEdition fs editions) candidates c

/-- Going through candidates stops at the first with an edition. -/
theorem findSome?_eq_some_iff : candidates.findSome? (·.installation? fs editions) = some i ↔
    ∃ c, FirstWith (fun d => d.HasEdition fs editions) candidates c ∧
      c.installation? fs editions = some i := by
  rw [List.findSome?_eq_some_iff]
  constructor
  · rintro ⟨before, c, after, hsplit, hc, hbefore⟩
    refine ⟨c, ⟨before, after, hsplit, ?_, fun d hd => ?_⟩, hc⟩
    · by_contra hnone
      rw [Candidate.installation?_eq_none_iff.2 hnone] at hc
      cases hc
    · exact Candidate.installation?_eq_none_iff.1 (hbefore d hd)
  · rintro ⟨c, ⟨before, after, hsplit, -, hbefore⟩, hc⟩
    exact ⟨before, c, after, hsplit, hc, fun d hd =>
      Candidate.installation?_eq_none_iff.2 (hbefore d hd)⟩

theorem findSome?_eq_none_iff : candidates.findSome? (·.installation? fs editions) = none ↔
    ∀ c ∈ candidates, ¬ c.HasEdition fs editions := by
  simp only [List.findSome?_eq_none_iff, Candidate.installation?_eq_none_iff]

/-- The candidates in the order they are tried in. -/
def tried (candidates : List Candidate) (release : Option String) : List Candidate :=
  candidates.filter (fun c => release == some c.version) ++ candidates

/-- **The preferred candidate gives the installation.** -/
theorem findSome?_tried_eq_some_iff :
    (tried candidates release).findSome? (·.installation? fs editions) = some i ↔
      ∃ c, Preferred fs candidates editions release c ∧ c.installation? fs editions = some i := by
  rw [tried, List.findSome?_append, Option.or_eq_some_iff, findSome?_eq_some_iff,
    findSome?_eq_none_iff, findSome?_eq_some_iff]
  simp only [firstWith_filter, List.mem_filter, beq_iff_eq, and_imp, Preferred, or_and_right,
    exists_or, and_assoc, exists_and_left]

theorem findSome?_tried_eq_none_iff (release : Option String) :
    (tried candidates release).findSome? (·.installation? fs editions) = none ↔
      ∀ c ∈ candidates, ¬ c.HasEdition fs editions := by
  rw [findSome?_eq_none_iff]
  constructor
  · exact fun h c hc => h c (List.mem_append_right _ hc)
  · intro h c hc
    obtain hc | hc := List.mem_append.1 hc
    · exact h c (List.mem_filter.1 hc).1
    · exact h c hc

theorem select_eq : select fs candidates editions release =
    match (tried candidates release).findSome? (·.installation? fs editions) with
    | some i => .ok i
    | none => .error (.noInstallation (candidates.map (·.root))) := rfl

theorem select_eq_ok_iff : select fs candidates editions release = .ok i ↔
    ∃ c, Preferred fs candidates editions release c ∧ c.installation? fs editions = some i := by
  rw [← findSome?_tried_eq_some_iff, select_eq]
  cases (tried candidates release).findSome? (·.installation? fs editions) <;> simp

theorem select_eq_error_iff {e : BuildError} : select fs candidates editions release = .error e ↔
    (∀ c ∈ candidates, ¬ c.HasEdition fs editions) ∧
      e = .noInstallation (candidates.map (·.root)) := by
  rw [← findSome?_tried_eq_none_iff release, select_eq]
  cases (tried candidates release).findSome? (·.installation? fs editions) <;> simp [eq_comm]

theorem exists_select_eq_ok_iff : (∃ i, select fs candidates editions release = .ok i) ↔
    ∃ c ∈ candidates, c.HasEdition fs editions := by
  constructor
  · rintro ⟨i, hi⟩
    by_contra hnone
    have herror : select fs candidates editions release =
        .error (.noInstallation (candidates.map (·.root))) :=
      select_eq_error_iff.2 ⟨fun c hc hedition => hnone ⟨c, hc, hedition⟩, rfl⟩
    rw [hi] at herror
    cases herror
  · rintro ⟨c, hc, hedition⟩
    cases hselect : select fs candidates editions release with
    | ok i => exact ⟨i, rfl⟩
    | error e => exact absurd hedition ((select_eq_error_iff.1 hselect).1 c hc)

/-- **The choice is the best in the order of the lists.** There is an installation exactly when some
candidate has a listed edition. It is the first edition present of the preferred candidate, in the
directory of this edition. If there is none, the error names the roots of all candidates in their
order. -/
theorem select_best (fs : FileSystem) (candidates : List Candidate) (editions : List String)
    (release : Option String) :
    ((∃ i, select fs candidates editions release = .ok i) ↔
      ∃ c ∈ candidates, ∃ edition ∈ editions, fs.isDirectory (c.root.join ⟨edition⟩) = true) ∧
    (∀ i, select fs candidates editions release = .ok i ↔
      ∃ c edition, Preferred fs candidates editions release c ∧
        FirstWith (c.Offers fs) editions edition ∧
        i = ⟨c.root, c.version, edition, c.root.join ⟨edition⟩⟩) ∧
    ∀ e, select fs candidates editions release = .error e ↔
      (∀ c ∈ candidates, ¬ c.HasEdition fs editions) ∧
        e = .noInstallation (candidates.map (·.root)) := by
  refine ⟨exists_select_eq_ok_iff, fun i => ?_, fun e => select_eq_error_iff⟩
  rw [select_eq_ok_iff]
  simp only [Candidate.installation?_eq_some_iff, ← exists_and_left]

end Installation

end Clinker

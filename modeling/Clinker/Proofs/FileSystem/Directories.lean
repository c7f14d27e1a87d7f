import Clinker.Proofs.FileSystem.Writing
import Clinker.Proofs.Path.Folder

/-!
# Creating directories twice

A second attempt to create a directory and those above it changes nothing. After a success the
directory is there (`isDirectory_of_createDirectories`). After a failure the attempt fails again
(`createDirectories_again_error`): what the first one could not create lies above what it went on
to ask for, and a path leads only through directories (`isDirectory_parent`). The second refusal
may have another cause than the first.
-/

namespace Clinker.FileSystem

variable {fs fs' : FileSystem} {p q : Path} {limits : Limits}

/-! ## Walks -/

theorem walk_append (fs : FileSystem) (start : Location) (steps more : List String) :
    fs.walk start (steps ++ more) =
      (fs.walk start steps).bind fun loc => fs.walk loc more := by
  induction steps generalizing start with
  | nil => rfl
  | cons step steps ih =>
    rw [List.cons_append, walk, walk]
    rcases fs.lookup? start with _ | _ | ⟨content, executable⟩
    · rfl
    · simp only [ih]
      split_ifs <;> rfl
    · rfl

/-- A walk goes on from a directory only. -/
theorem lookup?_of_walk_cons {start loc : Location} {step : String} {steps : List String}
    (h : fs.walk start (step :: steps) = .ok loc) : fs.lookup? start = some .directory := by
  rw [walk] at h
  rcases hstart : fs.lookup? start with _ | _ | ⟨content, executable⟩
  · simp [hstart] at h
  · rfl
  · simp [hstart] at h

theorem locate_eq_ok {loc : Location} : fs.locate p = .ok loc ↔
    '\x00' ∉ p.text.toList ∧ p.isEmpty = false ∧ ¬ maxPathBytes ≤ p.text.utf8ByteSize ∧
      fs.walk (if p.isAbsolute then [] else fs.current) p.steps = .ok loc := by
  rw [locate]
  split_ifs <;> simp_all

theorem isDirectory_iff : fs.isDirectory p = true ↔
    ∃ loc, fs.locate p = .ok loc ∧ fs.lookup? loc = some .directory := by
  rw [isDirectory, stat?]
  cases hloc : fs.locate p with
  | error e => simp
  | ok loc =>
    rcases hentry : fs.lookup? loc with _ | _ | ⟨content, executable⟩
    · simp [hentry]
    · simp [hentry]
    · cases p.endsInSeparator <;> simp [hentry]

theorem isFile_iff : fs.isFile p = true ↔ p.endsInSeparator = false ∧ ∃ loc content executable,
    fs.locate p = .ok loc ∧ fs.lookup? loc = some (.file content executable) := by
  rw [isFile, stat?]
  cases hloc : fs.locate p with
  | error e => simp
  | ok loc =>
    rcases hentry : fs.lookup? loc with _ | _ | ⟨content, executable⟩
    · simp [hentry]
    · simp [hentry]
    · cases p.endsInSeparator
      · simp only [Bool.false_eq_true, if_false, hentry, true_and]
        exact iff_of_true trivial ⟨loc, content, executable, rfl, hentry⟩
      · simp [hentry]

theorem pathExists_of_isFile (h : fs.isFile p = true) : fs.pathExists p = true := by
  rw [isFile] at h
  rw [pathExists]
  cases hstat : fs.stat? p <;> simp_all

theorem pathExists_of_isDirectory (h : fs.isDirectory p = true) : fs.pathExists p = true := by
  rw [isDirectory] at h
  rw [pathExists]
  cases hstat : fs.stat? p <;> simp_all

/-- **A path leads through every path that it continues** with more steps. -/
theorem isDirectory_of_append {loc : Location} {rest : List Char} (hq : q.isEmpty = false)
    (htext : p.text.toList = q.text.toList ++ rest)
    (hsteps : p.steps = q.steps ++ Path.stepsOf rest) (hrest : Path.stepsOf rest ≠ [])
    (hp : fs.locate p = .ok loc) : fs.isDirectory q = true := by
  obtain ⟨hnul, -, hsize, hwalk⟩ := locate_eq_ok.1 hp
  obtain ⟨step, steps, hcons⟩ := List.exists_cons_of_ne_nil hrest
  rw [hsteps, hcons, walk_append, Path.isAbsolute_of_append hq htext] at hwalk
  cases hreached : fs.walk (if q.isAbsolute then [] else fs.current) q.steps with
  | error e => simp [hreached, Except.bind] at hwalk
  | ok reached =>
    simp only [hreached, Except.bind] at hwalk
    refine isDirectory_iff.2 ⟨reached, locate_eq_ok.2 ⟨?_, hq, ?_, hreached⟩,
      lookup?_of_walk_cons hwalk⟩
    · rw [htext, List.mem_append] at hnul
      exact fun hmem => hnul (.inl hmem)
    · have hsplit : p.text = q.text ++ String.ofList rest := by
        apply String.toList_injective
        rw [htext, String.toList_append, String.toList_ofList]
      rw [hsplit, String.utf8ByteSize_append] at hsize
      omega

/-- **A path leads through its parent.** -/
theorem isDirectory_parent {loc : Location} (h : p.parent? = some q) (hq : q.isEmpty = false)
    (hp : fs.locate p = .ok loc) : fs.isDirectory q = true := by
  obtain ⟨rest, htext, hsteps, hne⟩ := Path.steps_of_parent? h hq
  exact isDirectory_of_append hq htext hsteps hne hp

/-! ## One directory -/

/-- **A directory is made where nothing was.** -/
theorem makeDirectory_eq_ok (h : fs.makeDirectory p limits = .ok fs') :
    ∃ loc, fs.locate p = .ok loc ∧ fs.lookup? loc = none ∧ fs' = fs.set loc .directory := by
  unfold makeDirectory at h
  cases hloc : fs.locate p with
  | error e => simp [hloc, bind, Except.bind] at h
  | ok loc =>
    simp only [hloc, bind, Except.bind] at h
    split_ifs at h
    cases hentry : fs.lookup? loc with
    | some entry => simp [hentry] at h
    | none =>
      cases hcreate : limits.create loc with
      | some why => simp [hentry, hcreate] at h
      | none =>
        simp only [hentry, hcreate, Except.ok.injEq] at h
        exact ⟨loc, rfl, hentry, h.symm⟩

theorem isDirectory_of_makeDirectory (h : fs.makeDirectory p limits = .ok fs') :
    fs'.isDirectory p = true := by
  obtain ⟨loc, hloc, hnone, rfl⟩ := makeDirectory_eq_ok h
  have hfree : fs.lookup? loc ≠ some .directory := by simp [hnone]
  exact isDirectory_iff.2 ⟨loc, locate_set hfree _ hloc,
    lookup?_set_self fs (ne_nil_of_lookup? hfree) _⟩

theorem makeDirectory_of_isDirectory (h : fs.isDirectory p = true) :
    fs.makeDirectory p limits = .error .alreadyExists := by
  obtain ⟨loc, hloc, hentry⟩ := isDirectory_iff.1 h
  unfold makeDirectory
  simp only [hloc, hentry, bind, Except.bind, ite_self]

/-- A directory that is there is left as it is. -/
theorem ensureDirectory_of_isDirectory (h : fs.isDirectory p = true) :
    fs.ensureDirectory p limits = .ok fs := by
  rw [ensureDirectory, makeDirectory_of_isDirectory h]
  simp [h]

/-- **What was ensured is there.** -/
theorem isDirectory_of_ensureDirectory (h : fs.ensureDirectory p limits = .ok fs') :
    fs'.isDirectory p = true := by
  unfold ensureDirectory at h
  cases hmake : fs.makeDirectory p limits with
  | ok made =>
    simp only [hmake, Except.ok.injEq] at h
    exact h ▸ isDirectory_of_makeDirectory hmake
  | error e =>
    simp only [hmake] at h
    split_ifs at h with hdir
    cases h
    exact hdir

theorem locate_of_ensureDirectory (h : fs.ensureDirectory p limits = .ok fs') :
    ∃ loc, fs.locate p = .ok loc := by
  cases hloc : fs.locate p with
  | ok loc => exact ⟨loc, rfl⟩
  | error e =>
    have hdir : fs.isDirectory p = false := by
      rw [Bool.eq_false_iff]
      intro hdir
      obtain ⟨loc, hok, -⟩ := isDirectory_iff.1 hdir
      simp [hok] at hloc
    simp [ensureDirectory, makeDirectory, hloc, bind, Except.bind, hdir] at h

/-! ## A directory and those above it -/

variable {above : List Path} {result : Except SystemError Unit}

/-- **How directories are created.** The first one is ensured in the end, or refused at once, or
one above it cannot be created, or it is refused when those above it are there. -/
theorem createLineage_cons (h : fs.createLineage limits (p :: above) = (result, fs')) :
    (result = .ok () ∧ ∃ made : FileSystem, made.ensureDirectory p limits = .ok fs') ∨
    (∃ e, result = .error e ∧ fs' = fs) ∨
    (∃ e, result = .error e ∧ fs.createLineage limits above = (.error e, fs')) ∨
    ∃ e, result = .error e ∧ fs.createLineage limits above = (.ok (), fs') ∧
      fs'.ensureDirectory p limits = .error e := by
  rw [createLineage] at h
  split at h
  · next made hmade =>
    cases h
    exact .inl ⟨rfl, fs, hmade⟩
  · next hmissing =>
    rcases habove : fs.createLineage limits above with ⟨e | _, made⟩
    · simp only [habove, Prod.mk.injEq] at h
      obtain ⟨rfl, rfl⟩ := h
      exact .inr (.inr (.inl ⟨e, rfl, rfl⟩))
    · cases hensure : made.ensureDirectory p limits with
      | ok made' =>
        simp only [habove, hensure, Prod.mk.injEq] at h
        obtain ⟨rfl, rfl⟩ := h
        exact .inl ⟨rfl, made, hensure⟩
      | error e =>
        simp only [habove, hensure, Prod.mk.injEq] at h
        obtain ⟨rfl, rfl⟩ := h
        exact .inr (.inr (.inr ⟨e, rfl, rfl, hensure⟩))
  · cases h
    exact .inr (.inl ⟨_, rfl, rfl⟩)

theorem createLineage_of_isDirectory (h : fs.isDirectory p = true) :
    fs.createLineage limits (p :: above) = (.ok (), fs) := by
  rw [createLineage, ensureDirectory_of_isDirectory h]

/-- A directory that cannot be ensured now, and for which the attempt on those above it would
change nothing, is refused and nothing changes. -/
theorem createLineage_refused {refusal : SystemError}
    (hp : fs.ensureDirectory p limits = .error refusal)
    (habove : fs.createLineage limits above = (result, fs)) :
    ∃ e, fs.createLineage limits (p :: above) = (.error e, fs) := by
  rw [createLineage, hp]
  cases refusal with
  | notFound =>
    cases result with
    | error e => exact ⟨e, by rw [habove]⟩
    | ok => exact ⟨.notFound, by simp only [habove, hp]⟩
  | _ => exact ⟨_, rfl⟩

theorem createDirectories_of_isDirectory (h : fs.isDirectory p = true) :
    fs.createDirectories p limits = (.ok (), fs) := by
  cases hp : p.isEmpty with
  | true => rw [createDirectories, Path.lineage_of_isEmpty hp, createLineage]
  | false =>
    obtain ⟨above, hcons⟩ := Path.exists_lineage hp
    rw [createDirectories, hcons, createLineage_of_isDirectory h]

/-- **What was created is there.** -/
theorem isDirectory_of_createDirectories (hp : p.isEmpty = false)
    (h : fs.createDirectories p limits = (.ok (), fs')) : fs'.isDirectory p = true := by
  obtain ⟨above, hcons⟩ := Path.exists_lineage hp
  rw [createDirectories, hcons] at h
  obtain ⟨-, made, hmade⟩ | ⟨e, he, -⟩ | ⟨e, he, -⟩ | ⟨e, he, -⟩ := createLineage_cons h
  · exact isDirectory_of_ensureDirectory hmade
  all_goals cases he

/-- The directories above a directory are there. -/
theorem isDirectory_of_mem_lineage {d : Path} (h : fs.isDirectory p = true) (hd : d ∈ p.lineage) :
    fs.isDirectory d = true := by
  induction p using Path.lineage.induct with
  | case1 p hempty =>
    rw [Path.lineage_of_isEmpty hempty] at hd
    exact absurd hd List.not_mem_nil
  | case2 p hempty htop =>
    rw [Path.lineage_of_noParent (Bool.eq_false_iff.2 hempty) htop, List.mem_singleton] at hd
    exact hd ▸ h
  | case3 p hempty q hparent ih =>
    rw [Path.lineage_of_parent (Bool.eq_false_iff.2 hempty) hparent] at hd
    obtain rfl | hd := List.mem_cons.1 hd
    · exact h
    · cases hq : q.isEmpty with
      | true =>
        rw [Path.lineage_of_isEmpty hq] at hd
        exact absurd hd List.not_mem_nil
      | false =>
        obtain ⟨loc, hloc, -⟩ := isDirectory_iff.1 h
        exact ih (isDirectory_parent hparent hq hloc) hd

/-- **The directories that a path lies in are there once they have been created.** -/
theorem isDirectory_of_createParent {d : Path} (h : fs.createParent p limits = (.ok (), fs'))
    (hq : p.writtenParent? = some q) (hd : d ∈ q.lineage) : fs'.isDirectory d = true := by
  have hne : q.isEmpty = false := by
    simpa using (Option.filter_eq_some_iff.1 hq).2
  rw [createParent, hq] at h
  exact isDirectory_of_mem_lineage (isDirectory_of_createDirectories hne h) hd

/-- **A second success changes nothing.** -/
theorem createDirectories_again_ok (h : fs.createDirectories p limits = (.ok (), fs')) :
    fs'.createDirectories p limits = (.ok (), fs') := by
  cases hp : p.isEmpty with
  | true => rw [createDirectories, Path.lineage_of_isEmpty hp, createLineage]
  | false => exact createDirectories_of_isDirectory (isDirectory_of_createDirectories hp h)

/-- **After a failure the attempt fails again, and nothing changes.** -/
theorem createDirectories_again_error {e : SystemError}
    (h : fs.createDirectories p limits = (.error e, fs')) :
    ∃ again, fs'.createDirectories p limits = (.error again, fs') := by
  unfold createDirectories at *
  induction p using Path.lineage.induct generalizing e with
  | case1 p hempty =>
    rw [Path.lineage_of_isEmpty hempty] at h
    cases h
  | case2 p hempty htop =>
    rw [Path.lineage_of_noParent (Bool.eq_false_iff.2 hempty) htop] at h ⊢
    obtain ⟨hok, -⟩ | ⟨_, -, rfl⟩ | ⟨_, -, hnil⟩ | ⟨_, -, hnil, hp⟩ := createLineage_cons h
    · cases hok
    · exact ⟨e, h⟩
    · cases hnil
    · exact createLineage_refused hp rfl
  | case3 p hempty q hparent ih =>
    rw [Path.lineage_of_parent (Bool.eq_false_iff.2 hempty) hparent] at h ⊢
    obtain ⟨hok, -⟩ | ⟨_, -, rfl⟩ | ⟨_, -, habove⟩ | ⟨_, -, habove, hp⟩ := createLineage_cons h
    · cases hok
    · exact ⟨e, h⟩
    · obtain ⟨again, hagain⟩ := ih habove
      cases hp : fs'.ensureDirectory p limits with
      | error refusal => exact createLineage_refused hp hagain
      | ok made =>
        -- A path that leads somewhere leads through its parent, which would have been created.
        obtain ⟨loc, hloc⟩ := locate_of_ensureDirectory hp
        cases hq : q.isEmpty with
        | true =>
          rw [Path.lineage_of_isEmpty hq] at hagain
          cases hagain
        | false =>
          have hok : fs'.createDirectories q limits = (.ok (), fs') :=
            createDirectories_of_isDirectory (isDirectory_parent hparent hq hloc)
          rw [createDirectories, hagain] at hok
          cases hok
    · exact createLineage_refused hp (createDirectories_again_ok habove)

end Clinker.FileSystem

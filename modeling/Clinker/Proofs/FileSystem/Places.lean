import Clinker.Proofs.FileSystem.Folder
import Mathlib.Data.List.Infix

/-!
# Where paths lead

A path leads step by step from its origin to its place, whether or not anything is there. A walk
that arrives somewhere arrives at the place (`place_of_locate`), and on its way it is where
`waypoints` says. What the creation of a directory for a path adds to a file system are
directories on the way to it, where nothing was before (`grown_createParent`). So it leaves what is
at a place as it is, if something is there or the place is not on the way (`Grown.sameAt`).
-/

namespace Clinker.FileSystem

variable {fs fs' fs'' : FileSystem} {p q d : Path} {locs : List Location} {limits : Limits}

/-! ## Where paths lead -/

/-- One step from a location. -/
def advance (loc : Location) (step : String) : Location :=
  if step == "." then loc else if step == ".." then loc.dropLast else loc ++ [step]

/-- Where steps lead from a location when nothing is in the way. -/
def follow (loc : Location) (steps : List String) : Location := steps.foldl advance loc

/-- The location that a path starts from. -/
def origin (fs : FileSystem) (p : Path) : Location := if p.isAbsolute then [] else fs.current

/-- Where a path leads when nothing is in the way. -/
def place (fs : FileSystem) (p : Path) : Location := follow (fs.origin p) p.steps

/-- Where a path leads step by step, from its origin to its place. -/
def waypoints (fs : FileSystem) (p : Path) : List Location :=
  p.steps.inits.map (follow (fs.origin p))

/-- Where a path leads on its way to its last component: the waypoints of its parent, if that is
written. -/
def passed (fs : FileSystem) (p : Path) : List Location :=
  match p.writtenParent? with
  | none => []
  | some q => fs.waypoints q

@[simp] theorem follow_nil (loc : Location) : follow loc [] = loc := rfl

theorem follow_cons (loc : Location) (step : String) (steps : List String) :
    follow loc (step :: steps) = follow (advance loc step) steps := rfl

theorem follow_append (loc : Location) (steps more : List String) :
    follow loc (steps ++ more) = follow (follow loc steps) more := List.foldl_append

theorem follow_name {name : String} (h : Path.IsName name) (loc : Location) :
    follow loc [name] = loc ++ [name] := by
  simp [follow, advance, h.ne_here, h.ne_up]

theorem mem_waypoints {loc : Location} :
    loc ∈ fs.waypoints p ↔ ∃ steps, steps <+: p.steps ∧ follow (fs.origin p) steps = loc := by
  simp only [waypoints, List.mem_map, List.mem_inits]

/-- **A walk that arrives somewhere arrives where its steps lead.** -/
theorem follow_of_walk : ∀ (steps : List String) {start loc : Location},
    fs.walk start steps = .ok loc → follow start steps = loc
  | [], _, _, h => Except.ok.inj h
  | step :: steps, start, loc, h => by
    have hstart := lookup?_of_walk_cons h
    unfold walk at h
    simp only [hstart] at h
    rw [follow_cons, advance]
    split_ifs at h ⊢
    · exact follow_of_walk steps h
    · exact follow_of_walk steps h
    · exact follow_of_walk steps h

theorem place_of_locate {loc : Location} (h : fs.locate p = .ok loc) : fs.place p = loc :=
  follow_of_walk p.steps (locate_eq_ok.1 h).2.2.2

/-- Where a component leads from a location. -/
def enter (loc : Location) : Component → Location
  | .root => []
  | .here => loc
  | .up => loc.dropLast
  | .name text => loc ++ [text]

theorem follow_eq_foldl (loc : Location) (steps : List String) : follow loc steps =
    ((steps.filter (· != ".")).map Path.componentOf).foldl enter loc := by
  induction steps generalizing loc with
  | nil => rfl
  | cons step steps ih =>
    rw [follow_cons, ih, advance]
    by_cases hhere : step = "."
    · simp [hhere]
    · by_cases hup : step = ".."
      · simp [hup, Path.componentOf, enter]
      · simp [hhere, hup, Path.componentOf, enter]

/-- **A path leads where its components lead.** -/
theorem place_eq_foldl (fs : FileSystem) (p : Path) :
    fs.place p = p.components.foldl enter fs.current := by
  have hfront : follow (fs.origin p) (Path.stepsOf (Path.front p.text.toList)) =
      (Path.frontComponents (Path.front p.text.toList)).foldl enter fs.current := by
    rw [origin]
    obtain ⟨hfront, habsolute⟩ | ⟨hfront | hfront, habsolute⟩ := p.front_cases
    all_goals
      rw [hfront, habsolute]
      rfl
  rw [place, Path.steps_eq_stepsOf, Path.stepsOf_front_append_body, follow_append, hfront,
    follow_eq_foldl, Path.components_eq, List.foldl_append, Path.componentsOf]

/-- **Two paths with the same components lead to the same location**, if they lead anywhere. -/
theorem locate_eq_of_same {loc loc' : Location} (h : p.same q = true)
    (hp : fs.locate p = .ok loc) (hq : fs.locate q = .ok loc') : loc = loc' := by
  rw [← place_of_locate hp, ← place_of_locate hq, place_eq_foldl, place_eq_foldl, eq_of_beq h]

/-- **A walk leads through directories only.** -/
theorem lookup?_of_walk_concat {start loc : Location} {steps pre : List String} {last : String}
    (h : fs.walk start (steps ++ [last]) = .ok loc) (hpre : pre <+: steps) :
    fs.lookup? (follow start pre) = some .directory := by
  obtain ⟨rest, rfl⟩ := hpre
  obtain ⟨step, more, hmore⟩ := List.exists_cons_of_ne_nil (List.concat_ne_nil last rest)
  rw [List.append_assoc, hmore, walk_append] at h
  cases hreached : fs.walk start pre with
  | error e => simp [hreached, Except.bind] at h
  | ok reached =>
    simp only [hreached, Except.bind] at h
    rw [follow_of_walk pre hreached]
    exact lookup?_of_walk_cons h

theorem lookup?_of_home {dir : Path} {base loc : Location} (h : fs.home dir = .ok base)
    (hloc : loc ∈ fs.waypoints dir) : fs.lookup? loc = some .directory := by
  obtain ⟨pre, hpre, rfl⟩ := mem_waypoints.1 hloc
  exact lookup?_of_walk_concat h hpre

theorem place_mem_waypoints (h : d ∈ q.lineage) : fs.place d ∈ fs.waypoints q := by
  obtain ⟨hsteps, habsolute⟩ := Path.prefix_of_mem_lineage h
  refine mem_waypoints.2 ⟨d.steps, hsteps, ?_⟩
  rw [place, origin, origin, habsolute]

/-! ## Last names -/

theorem isAbsolute_suffixed (p : Path) {suffix : String} (hsep : '/' ∉ suffix.toList) :
    (p.suffixed suffix).isAbsolute = p.isAbsolute := by
  rw [Path.isAbsolute, Path.isAbsolute, Path.text_suffixed, String.toList_append]
  cases p.text.toList with
  | nil =>
    rw [List.nil_append, List.head?_nil, beq_eq_false_iff_ne.2 fun hhead =>
      hsep (List.mem_of_head? hhead)]
    rfl
  | cons c cs => rfl

/-- What follows the last separator leads to no name that is longer than it. -/
theorem follow_stepsOf_ne (base : Location) {last : List Char} (hlast : '/' ∉ last)
    {suffix : String} (hlong : suffix ≠ "") :
    follow base (Path.stepsOf last) ≠ base ++ [String.ofList last ++ suffix] := by
  by_cases hempty : last = []
  · simp [hempty]
  · rw [Path.stepsOf_of_not_mem hlast hempty, follow_cons, follow_nil, advance]
    intro heq
    split_ifs at heq
    · simpa using congrArg List.length heq
    · have hlength := congrArg List.length heq
      rw [List.length_dropLast, List.length_append, List.length_singleton] at hlength
      omega
    · have htext := congrArg String.length (List.append_singleton_inj.1 heq).2
      rw [String.length_append] at htext
      exact hlong (String.length_eq_zero_iff.1 (by omega))

/-- **A path with a longer ending leads to another place.** -/
theorem place_suffixed_ne (fs : FileSystem) (p : Path) {suffix : String}
    (hsep : '/' ∉ suffix.toList) (hlong : 2 < suffix.length) :
    fs.place (p.suffixed suffix) ≠ fs.place p := by
  obtain ⟨above, last, htext, hlast, habove⟩ := Path.exists_lastName p.text.toList
  have hname : Path.IsName (String.ofList last ++ suffix) := by
    refine .of_length ?_ (by rw [String.length_append]; omega)
    rw [String.toList_append, String.toList_ofList, List.mem_append, not_or]
    exact ⟨hlast, hsep⟩
  have hsuffixed : (p.suffixed suffix).steps =
      Path.stepsOf above ++ [String.ofList last ++ suffix] := by
    rw [Path.steps_eq_stepsOf, Path.text_suffixed, String.toList_append, htext, List.append_assoc,
      Path.stepsOf_above habove, ← hname.stepsOf_eq, String.toList_append, String.toList_ofList]
  rw [place, place, origin, origin, isAbsolute_suffixed p hsep, hsuffixed, Path.steps_eq_stepsOf p,
    htext, Path.stepsOf_above habove, follow_append, follow_append, follow_name hname]
  refine (follow_stepsOf_ne _ hlast ?_).symm
  rintro rfl
  exact absurd hlong (by decide)

/-- **A path that ends in a name** lies in some folder under this name. -/
theorem exists_join_of_endsInName (h : endsInName p = true) (hsep : p.endsInSeparator = false) :
    ∃ (dir : Path) (name : String), Path.IsName name ∧ p = dir.join ⟨name⟩ := by
  obtain ⟨above, last, htext, hlast, habove⟩ := Path.exists_lastName p.text.toList
  have hne : last ≠ [] := by
    rintro rfl
    rw [List.append_nil] at htext
    obtain rfl | ⟨before, rfl⟩ := habove
    · simp [endsInName, Path.steps_eq_stepsOf, htext] at h
    · simp [Path.endsInSeparator, htext] at hsep
  have hsteps : p.steps = Path.stepsOf above ++ [String.ofList last] := by
    rw [Path.steps_eq_stepsOf, htext, Path.stepsOf_above habove, Path.stepsOf_of_not_mem hlast hne]
  rw [endsInName, hsteps, List.getLast?_concat] at h
  simp only [Bool.and_eq_true, bne_iff_ne] at h
  have hname : Path.IsName (String.ofList last) :=
    ⟨fun heq => hne (String.ofList_eq_empty_iff.1 heq), by rwa [String.toList_ofList], h.1, h.2⟩
  refine ⟨⟨String.ofList above⟩, String.ofList last, hname, ?_⟩
  have hopening : Path.opening ⟨String.ofList above⟩ = above := by
    rw [Path.opening]
    obtain rfl | ⟨before, rfl⟩ := habove
    · rfl
    · simp [Path.endsInSeparator]
  apply Path.eq_of_toList_eq
  rw [Path.toList_join hname, hopening, String.toList_ofList, htext]

/-- On its way to a name in a folder a path passes where the folder leads. -/
theorem passed_join_subset {dir : Path} {name : String} (hname : Path.IsName name) :
    fs.passed (dir.join ⟨name⟩) ⊆ fs.waypoints dir := by
  intro loc hloc
  unfold passed at hloc
  cases hparent : (dir.join ⟨name⟩).writtenParent? with
  | none => simp [hparent] at hloc
  | some q =>
    rw [hparent] at hloc
    obtain ⟨hq, hne⟩ := Option.filter_eq_some_iff.1 hparent
    have hwritten : q.isEmpty = false := by simpa using hne
    obtain ⟨rest, -, hsteps, hrest⟩ := Path.steps_of_parent? hq hwritten
    have habsolute := (Path.prefix_of_parent? hq hwritten).2
    rw [Path.isAbsolute_join hname] at habsolute
    rw [Path.steps_join hname] at hsteps
    have hprefix : q.steps <+: dir.steps := by
      obtain ⟨before, last, hlast⟩ := (List.eq_nil_or_concat _).resolve_left hrest
      rw [hlast, List.concat_eq_append, ← List.append_assoc] at hsteps
      exact ⟨before, (List.append_singleton_inj.1 hsteps).1.symm⟩
    obtain ⟨steps, hpre, hfollow⟩ := mem_waypoints.1 hloc
    refine mem_waypoints.2 ⟨steps, hpre.trans hprefix, ?_⟩
    rwa [origin, ← habsolute]

/-! ## Added directories -/

/-- Directories have been added at some locations where nothing was, and nothing else has
happened. -/
structure Grown (locs : List Location) (fs fs' : FileSystem) : Prop where
  current : fs'.current = fs.current
  lookup? : ∀ loc, fs'.lookup? loc = fs.lookup? loc ∨
    loc ∈ locs ∧ fs.lookup? loc = none ∧ fs'.lookup? loc = some .directory

namespace Grown

theorem refl (locs : List Location) (fs : FileSystem) : Grown locs fs fs :=
  ⟨rfl, fun _ => .inl rfl⟩

theorem mono {more : List Location} (h : Grown locs fs fs') (hsub : locs ⊆ more) :
    Grown more fs fs' :=
  ⟨h.current, fun loc => (h.lookup? loc).imp_right fun hnew => ⟨hsub hnew.1, hnew.2⟩⟩

theorem trans (h : Grown locs fs fs') (h' : Grown locs fs' fs'') : Grown locs fs fs'' where
  current := h'.current.trans h.current
  lookup? := by
    intro loc
    obtain heq | ⟨hmem, hnone, hnew⟩ := h.lookup? loc
    · rw [← heq]
      exact h'.lookup? loc
    · obtain heq' | ⟨-, hnone', -⟩ := h'.lookup? loc
      · exact .inr ⟨hmem, hnone, heq'.trans hnew⟩
      · rw [hnew] at hnone'
        cases hnone'

theorem keeps (h : Grown locs fs fs') : Keeps fs fs' where
  current := h.current
  directories := by
    intro loc hdir
    obtain heq | ⟨-, hnone, -⟩ := h.lookup? loc
    · rw [heq, hdir]
    · rw [hdir] at hnone
      cases hnone

end Grown

theorem place_congr (h : fs'.current = fs.current) (p : Path) : fs'.place p = fs.place p := by
  simp only [place, origin, h]

theorem waypoints_congr (h : fs'.current = fs.current) (p : Path) :
    fs'.waypoints p = fs.waypoints p := by
  simp only [waypoints, origin, h]

theorem passed_congr (h : fs'.current = fs.current) (p : Path) : fs'.passed p = fs.passed p := by
  simp only [passed, waypoints_congr h]

theorem grown_makeDirectory (h : fs.makeDirectory p limits = .ok fs') :
    Grown [fs.place p] fs fs' := by
  obtain ⟨loc, hloc, hnone, rfl⟩ := makeDirectory_eq_ok h
  rw [place_of_locate hloc]
  refine ⟨rfl, fun other => ?_⟩
  by_cases heq : other = loc
  · subst heq
    have hfree : fs.lookup? other ≠ some .directory := by simp [hnone]
    exact .inr ⟨List.mem_singleton_self _, hnone,
      lookup?_set_self fs (ne_nil_of_lookup? hfree) _⟩
  · exact .inl (lookup?_set_of_ne fs heq _)

theorem grown_ensureDirectory (h : fs.ensureDirectory p limits = .ok fs') :
    Grown [fs.place p] fs fs' := by
  unfold ensureDirectory at h
  cases hmake : fs.makeDirectory p limits with
  | ok made =>
    simp only [hmake, Except.ok.injEq] at h
    exact h ▸ grown_makeDirectory hmake
  | error e =>
    simp only [hmake] at h
    split_ifs at h
    cases h
    exact .refl _ _

/-- **Creating directories one above the other adds some of them**, whether it succeeds or not. -/
theorem grown_createLineage (ps : List Path) (fs : FileSystem) (limits : Limits) :
    Grown (ps.map fs.place) fs (fs.createLineage limits ps).2 := by
  induction ps with
  | nil => exact .refl _ _
  | cons p above ih =>
    have hfirst : ∀ {made made' : FileSystem}, made.current = fs.current →
        made.ensureDirectory p limits = .ok made' →
        Grown ((p :: above).map fs.place) made made' := by
      intro made made' hcurrent hmade
      refine (grown_ensureDirectory hmade).mono ?_
      rw [place_congr hcurrent]
      simp
    have habove := ih.mono (List.subset_cons_self (fs.place p) (above.map fs.place))
    rw [createLineage]
    split
    · next made hmade => exact hfirst rfl hmade
    · rcases hlineage : fs.createLineage limits above with ⟨e | _, made⟩
      · simp only [hlineage] at habove ⊢
        exact habove
      · simp only [hlineage] at habove ⊢
        cases hensure : made.ensureDirectory p limits with
        | ok made' => exact habove.trans (hfirst habove.current hensure)
        | error e => exact habove
    · exact .refl _ _

/-- **Creating the directory that a path lies in adds directories where the path passes.** -/
theorem grown_createParent (fs : FileSystem) (p : Path) (limits : Limits) :
    Grown (fs.passed p) fs (fs.createParent p limits).2 := by
  unfold createParent passed
  cases p.writtenParent? with
  | none => exact .refl _ _
  | some q =>
    refine (grown_createLineage q.lineage fs limits).mono ?_
    intro loc hloc
    obtain ⟨d, hd, rfl⟩ := List.mem_map.1 hloc
    exact place_mem_waypoints hd

/-! ## One place -/

/-- What is at the place of a path is what was there. -/
structure SameAt (p : Path) (fs fs' : FileSystem) : Prop where
  current : fs'.current = fs.current
  lookup? : fs'.lookup? (fs.place p) = fs.lookup? (fs.place p)

namespace SameAt

theorem refl (p : Path) (fs : FileSystem) : SameAt p fs fs := ⟨rfl, rfl⟩

theorem trans (h : SameAt p fs fs') (h' : SameAt p fs' fs'') : SameAt p fs fs'' where
  current := h'.current.trans h.current
  lookup? := by
    have hlookup := h'.lookup?
    rw [place_congr h.current] at hlookup
    exact hlookup.trans h.lookup?

end SameAt

/-- Directories that were added elsewhere leave a place as it was. -/
theorem Grown.sameAt (h : Grown locs fs fs')
    (hplace : fs.lookup? (fs.place p) = none → fs.place p ∉ locs) : SameAt p fs fs' := by
  refine ⟨h.current, ?_⟩
  obtain heq | ⟨hmem, hnone, -⟩ := h.lookup? (fs.place p)
  · exact heq
  · exact absurd hmem (hplace hnone)

/-- A file that is removed elsewhere leaves a place as it was. -/
theorem sameAt_removeFileIfExists (hne : fs.place q ≠ fs.place p)
    (h : fs.removeFileIfExists q limits = .ok fs') : SameAt p fs fs' := by
  obtain ⟨rfl, -⟩ | ⟨loc, hloc, -, -, -, rfl⟩ := removeFileIfExists_eq_ok h
  · exact .refl p fs'
  · rw [place_of_locate hloc] at hne
    exact ⟨rfl, lookup?_erase_of_ne fs hne.symm⟩

end Clinker.FileSystem

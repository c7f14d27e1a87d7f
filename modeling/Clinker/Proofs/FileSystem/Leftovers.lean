import Clinker.Proofs.FileSystem.Places
import Mathlib.Order.BooleanAlgebra.Set

/-!
# What is left in some files

Two file systems agree off some locations (`AgreeOff`) when all else is the same in them and no
location is a directory in one and none in the other. A path that keeps off these locations on its
way leads to the same place in both (`AgreeOff.home`), so whatever is done at such a path succeeds
in both or in none and leaves them agreeing as before (`Alike`), and after a file was removed they
agree on what is there as well (`AgreeOff.removing`).
-/

namespace Clinker.FileSystem

open Clinker.Path (IsName)

variable {fs fs' : FileSystem} {hidden more : Set Location} {p q dir : Path} {name : String}
  {limits : Limits}

/-- Two file systems agree off some locations, and on which locations are directories. -/
structure AgreeOff (hidden : Set Location) (fs fs' : FileSystem) : Prop where
  current : fs'.current = fs.current
  lookup? : ∀ loc ∉ hidden, fs'.lookup? loc = fs.lookup? loc
  directory : ∀ loc, fs'.lookup? loc = some .directory ↔ fs.lookup? loc = some .directory

/-- Two attempts succeed and leave file systems that agree off some locations, or fail in the same
way. -/
def Alike (hidden : Set Location) :
    Except SystemError FileSystem → Except SystemError FileSystem → Prop
  | .ok left, .ok left' => AgreeOff hidden left left'
  | .error e, .error e' => e' = e
  | _, _ => False

theorem alike_cases {r r' : Except SystemError FileSystem} (h : Alike hidden r r') :
    (∃ e, r = .error e ∧ r' = .error e) ∨
    ∃ left left', r = .ok left ∧ r' = .ok left' ∧ AgreeOff hidden left left' := by
  cases r <;> cases r'
  · exact .inl ⟨_, rfl, congrArg _ h⟩
  · exact False.elim h
  · exact False.elim h
  · exact .inr ⟨_, _, rfl, rfl, h⟩

/-- A path keeps off some locations all the way. -/
def KeepsOff (hidden : Set Location) (fs : FileSystem) (p : Path) : Prop :=
  ∀ loc ∈ fs.waypoints p, loc ∉ hidden

namespace AgreeOff

theorem symm (h : AgreeOff hidden fs fs') : AgreeOff hidden fs' fs :=
  ⟨h.current.symm, fun loc hloc => (h.lookup? loc hloc).symm, fun loc => (h.directory loc).symm⟩

theorem keeps (h : AgreeOff hidden fs fs') : Keeps fs fs' :=
  ⟨h.current, fun loc => (h.directory loc).2⟩

theorem mono (h : AgreeOff hidden fs fs') (hsub : hidden ⊆ more) : AgreeOff more fs fs' :=
  ⟨h.current, fun loc hloc => h.lookup? loc fun hmem => hloc (hsub hmem), h.directory⟩

end AgreeOff

theorem KeepsOff.of_current (h : KeepsOff hidden fs p) (hcurrent : fs'.current = fs.current) :
    KeepsOff hidden fs' p := by
  unfold KeepsOff at *
  rwa [waypoints_congr hcurrent]

theorem KeepsOff.mono (h : KeepsOff more fs p) (hsub : hidden ⊆ more) : KeepsOff hidden fs p :=
  fun loc hloc hmem => h loc hloc (hsub hmem)

theorem KeepsOff.place (h : KeepsOff hidden fs p) : fs.place p ∉ hidden :=
  h _ (mem_waypoints.2 ⟨p.steps, List.prefix_rfl, rfl⟩)

theorem KeepsOff.of_mem_lineage (h : KeepsOff hidden fs q) {d : Path} (hd : d ∈ q.lineage) :
    KeepsOff hidden fs d := by
  intro loc hloc
  obtain ⟨steps, hsteps, hfollow⟩ := mem_waypoints.1 hloc
  obtain ⟨habove, habsolute⟩ := Path.prefix_of_mem_lineage hd
  refine h loc (mem_waypoints.2 ⟨steps, hsteps.trans habove, ?_⟩)
  rwa [origin, ← habsolute]

/-! ## Paths -/

namespace AgreeOff

/-- **Off the locations every walk goes the same way.** -/
theorem walk (h : AgreeOff hidden fs fs') : ∀ (steps : List String) {start : Location},
    (∀ pre, pre <+: steps → follow start pre ∉ hidden) →
    fs'.walk start steps = fs.walk start steps
  | [], _, _ => rfl
  | step :: steps, start, hfree => by
    have hrest : fs'.walk (advance start step) steps = fs.walk (advance start step) steps :=
      h.walk steps fun pre hpre => hfree (step :: pre) (List.cons_prefix_cons.2 ⟨rfl, hpre⟩)
    rw [FileSystem.walk, FileSystem.walk, h.lookup? start (hfree [] List.nil_prefix)]
    rcases fs.lookup? start with _ | _ | ⟨content, executable⟩
    · rfl
    · unfold advance at hrest
      simp only
      split_ifs at hrest ⊢
      · exact hrest
      · exact hrest
      · rfl
      · exact hrest
    · rfl

theorem locate (h : AgreeOff hidden fs fs') (hp : KeepsOff hidden fs p) :
    fs'.locate p = fs.locate p := by
  have hwalk : fs'.walk (fs.origin p) p.steps = fs.walk (fs.origin p) p.steps :=
    h.walk p.steps fun pre hpre => hp _ (mem_waypoints.2 ⟨pre, hpre, rfl⟩)
  unfold origin at hwalk
  unfold FileSystem.locate
  rw [h.current, hwalk]

/-- **Names in a folder that keeps off the locations lead to the same place.** -/
theorem home (h : AgreeOff hidden fs fs') (hdir : KeepsOff hidden fs dir) :
    fs'.home dir = fs.home dir := by
  have hwalk : fs'.walk (fs.origin dir) (dir.steps ++ ["."]) =
      fs.walk (fs.origin dir) (dir.steps ++ ["."]) := by
    refine h.walk _ fun pre hpre => ?_
    obtain rfl | hpre := List.prefix_concat_iff.1 hpre
    · rw [follow_append]
      exact hdir.place
    · exact hdir _ (mem_waypoints.2 ⟨pre, hpre, rfl⟩)
  unfold origin at hwalk
  unfold FileSystem.home
  rw [h.current, hwalk]

theorem locate_join (h : AgreeOff hidden fs fs') (hdir : KeepsOff hidden fs dir)
    (hname : IsName name) : fs'.locate (dir.join ⟨name⟩) = fs.locate (dir.join ⟨name⟩) := by
  rw [FileSystem.locate_join hname, FileSystem.locate_join hname, h.home hdir]

/-! ## Directories -/

theorem isDirectory (h : AgreeOff hidden fs fs') (hp : KeepsOff hidden fs p) :
    fs'.isDirectory p = fs.isDirectory p := by
  rw [Bool.eq_iff_iff, isDirectory_iff, isDirectory_iff, h.locate hp]
  simp only [h.directory]

/-- What happens at one location keeps the agreement elsewhere. -/
theorem update {left left' : FileSystem} {loc : Location} (h : AgreeOff hidden fs fs')
    (hcurrent : left'.current = left.current)
    (hother : ∀ other ≠ loc, left.lookup? other = fs.lookup? other ∧
      left'.lookup? other = fs'.lookup? other)
    (hmore : ∀ other ∈ hidden, other ≠ loc → other ∈ more)
    (hloc : loc ∉ more → left'.lookup? loc = left.lookup? loc)
    (hdirectory : left'.lookup? loc = some .directory ↔ left.lookup? loc = some .directory) :
    AgreeOff more left left' := by
  refine ⟨hcurrent, fun other hfree => ?_, fun other => ?_⟩
  all_goals by_cases heq : other = loc
  · rw [heq] at hfree ⊢
    exact hloc hfree
  · rw [(hother other heq).1, (hother other heq).2]
    exact h.lookup? other fun hmem => hfree (hmore other hmem heq)
  · rw [heq]
    exact hdirectory
  · rw [(hother other heq).1, (hother other heq).2]
    exact h.directory other

theorem set (h : AgreeOff hidden fs fs') (loc : Location) (e : Entry) :
    AgreeOff hidden (fs.set loc e) (fs'.set loc e) := by
  have hself : (fs'.set loc e).lookup? loc = (fs.set loc e).lookup? loc := by
    by_cases hroot : loc = []
    · subst hroot
      rfl
    · rw [lookup?_set_self fs hroot, lookup?_set_self fs' hroot]
  refine h.update h.current (fun other hne => ?_) (fun _ hmem _ => hmem) (fun _ => hself)
    (by rw [hself])
  exact ⟨lookup?_set_of_ne fs hne e, lookup?_set_of_ne fs' hne e⟩

theorem makeDirectory (h : AgreeOff hidden fs fs') (hp : KeepsOff hidden fs p) :
    Alike hidden (fs.makeDirectory p limits) (fs'.makeDirectory p limits) := by
  unfold FileSystem.makeDirectory
  rw [h.locate hp]
  cases hloc : fs.locate p with
  | error e => rfl
  | ok loc =>
    have hlookup := h.lookup? loc (place_of_locate hloc ▸ hp.place)
    simp only [bind, Except.bind, hlookup]
    split_ifs
    · rfl
    · cases fs.lookup? loc with
      | some entry => rfl
      | none =>
        cases limits.create loc with
        | some why => rfl
        | none => exact h.set loc .directory

theorem ensureDirectory (h : AgreeOff hidden fs fs') (hp : KeepsOff hidden fs p) :
    Alike hidden (fs.ensureDirectory p limits) (fs'.ensureDirectory p limits) := by
  unfold FileSystem.ensureDirectory
  rw [h.isDirectory hp]
  obtain ⟨e, he, he'⟩ | ⟨made, made', hmade, hmade', hagree⟩ := alike_cases (h.makeDirectory hp)
  · rw [he, he']
    simp only
    split_ifs
    · exact h
    · rfl
  · rw [hmade, hmade']
    exact hagree

/-- **Directories one above the other are created in both or in none.** -/
theorem createLineage {ps : List Path} (h : AgreeOff hidden fs fs')
    (hps : ∀ p ∈ ps, KeepsOff hidden fs p) :
    (fs'.createLineage limits ps).1 = (fs.createLineage limits ps).1 ∧
      AgreeOff hidden (fs.createLineage limits ps).2 (fs'.createLineage limits ps).2 := by
  induction ps with
  | nil => exact ⟨rfl, h⟩
  | cons p above ih =>
    obtain ⟨hp, habove⟩ := List.forall_mem_cons.1 hps
    rw [FileSystem.createLineage, FileSystem.createLineage]
    obtain ⟨e, he, he'⟩ | ⟨made, made', hmade, hmade', hagree⟩ := alike_cases (h.ensureDirectory hp)
    · rw [he, he']
      cases e with
      | notFound =>
        have hcurrent := (grown_createLineage above fs limits).current
        obtain ⟨hresult, hleft⟩ := ih habove
        rcases hlineage : fs.createLineage limits above with ⟨result, made⟩
        rcases hlineage' : fs'.createLineage limits above with ⟨result', made'⟩
        rw [hlineage] at hcurrent
        rw [hlineage, hlineage'] at hresult hleft
        obtain rfl : result' = result := hresult
        cases result' with
        | error e => exact ⟨rfl, hleft⟩
        | ok =>
          have hensure : Alike hidden (made.ensureDirectory p limits)
              (made'.ensureDirectory p limits) := hleft.ensureDirectory (hp.of_current hcurrent)
          obtain ⟨e, he, he'⟩ | ⟨last, last', hlast, hlast', hagree⟩ := alike_cases hensure
          · simp only [he, he']
            exact ⟨trivial, hleft⟩
          · simp only [hlast, hlast']
            exact ⟨trivial, hagree⟩
      | _ => exact ⟨rfl, h⟩
    · rw [hmade, hmade']
      exact ⟨rfl, hagree⟩

theorem createParent (h : AgreeOff hidden fs fs') (limits : Limits)
    (hp : ∀ loc ∈ fs.passed p, loc ∉ hidden) :
    (fs'.createParent p limits).1 = (fs.createParent p limits).1 ∧
      AgreeOff hidden (fs.createParent p limits).2 (fs'.createParent p limits).2 := by
  unfold FileSystem.createParent
  unfold passed at hp
  cases hparent : p.writtenParent? with
  | none => exact ⟨rfl, h⟩
  | some q =>
    rw [hparent] at hp
    exact h.createLineage fun d hd => KeepsOff.of_mem_lineage hp hd

end AgreeOff

/-! ## Files -/

theorem revise_of_nowhere {e : SystemError} (h : fs.locate p = .error e) (op : Operation) :
    fs.revise p op = (op.nowhere e, fs) := by
  rw [revise, h]

theorem revise_of_directory {loc : Location} (h : fs.locate p = .ok loc)
    (hdir : fs.lookup? loc = some .directory) (op : Operation) :
    fs.revise p op = (.error .isADirectory, fs) := by
  rw [revise, h]
  simp only [hdir]

theorem revise_of_free {loc : Location} (h : fs.locate p = .ok loc)
    (hfree : fs.lookup? loc ≠ some .directory) (op : Operation) :
    fs.revise p op = ((op.here loc (fileOf (fs.lookup? loc))).1,
      fs.change loc (op.here loc (fileOf (fs.lookup? loc))).2) := by
  rw [revise, h]
  rcases hentry : fs.lookup? loc with _ | _ | ⟨content, executable⟩
  · simp only [hentry]
  · exact absurd hentry hfree
  · simp only [hentry]

namespace Operation

/-- An operation comes to the same whatever file it finds at a location, or if it finds none. -/
def Steady (op : Operation) (loc : Location) : Prop :=
  ∀ file file', (op.here loc file').1 = (op.here loc file).1

/-- A write comes to the same if a file can be written where one can be made. -/
theorem steady_writing {loc : Location} (h : limits.overwrite loc = limits.create loc)
    (content : ByteArray) : (writing content limits).Steady loc := by
  have hmade : ∀ file, ((writing content limits).here loc file).1 =
      ((writing content limits).here loc none).1 := by
    rintro (_ | ⟨old, executable⟩)
    · rfl
    · simp only [writing, h]
      cases limits.create loc with
      | some why => rfl
      | none =>
        simp only [filling]
        rcases limits.room loc with _ | ⟨bytes, why⟩
        · rfl
        · simp only
          split_ifs <;> rfl
  intro file file'
  rw [hmade file, hmade file']

/-- A removal comes to the same if a file can be removed. -/
theorem steady_removing {loc : Location} (h : limits.remove loc = none) :
    (removing limits).Steady loc := by
  have hdone : ∀ file, ((removing limits).here loc file).1 = .ok () := by
    rintro (_ | file)
    · rfl
    · simp only [removing, h]
  intro file file'
  rw [hdone, hdone]

end Operation

/-- Nothing is left of a file that is removed. -/
theorem lookup?_removed {loc : Location} (hremove : limits.remove loc = none)
    (hfree : fs.lookup? loc ≠ some .directory) :
    (fs.change loc ((Operation.removing limits).here loc (fileOf (fs.lookup? loc))).2).lookup? loc =
      none := by
  rcases hentry : fs.lookup? loc with _ | _ | ⟨content, executable⟩
  · exact hentry
  · exact absurd hentry hfree
  · simp only [fileOf, Operation.removing, hremove]
    exact lookup?_erase_self fs (ne_nil_of_lookup? hfree)

namespace AgreeOff

/-- Two changes of a location that holds no directory leave the agreement off other locations, and
there too if they leave the same. -/
theorem change {loc : Location} {c c' : Change} (h : AgreeOff hidden fs fs')
    (hfree : fs.lookup? loc ≠ some .directory)
    (hmore : ∀ other ∈ hidden, other ≠ loc → other ∈ more)
    (hc : loc ∉ more → (fs'.change loc c').lookup? loc = (fs.change loc c).lookup? loc) :
    AgreeOff more (fs.change loc c) (fs'.change loc c') := by
  have hfree' : fs'.lookup? loc ≠ some .directory := fun hdir => hfree ((h.directory loc).1 hdir)
  have hcurrent : (fs'.change loc c').current = (fs.change loc c).current := by
    rw [(keeps_change hfree c).current, (keeps_change hfree' c').current, h.current]
  refine h.update hcurrent (fun other hne => ?_) hmore hc ?_
  · exact ⟨lookup?_change_of_ne hne c, lookup?_change_of_ne hne c'⟩
  · exact iff_of_false (lookup?_change_ne_directory hfree' c') (lookup?_change_ne_directory hfree c)

/-- An operation where the path leads to the same location in both file systems. -/
theorem revise_of_free {loc : Location} (h : AgreeOff hidden fs fs') {op : Operation}
    (hloc : fs.locate p = .ok loc) (hloc' : fs'.locate p = .ok loc)
    (hop : loc ∈ hidden → op.Steady loc)
    (hmore : ∀ other ∈ hidden, other ≠ loc → other ∈ more)
    (hc : loc ∉ more → fs.lookup? loc ≠ some .directory →
      (fs'.change loc (op.here loc (fileOf (fs'.lookup? loc))).2).lookup? loc =
        (fs.change loc (op.here loc (fileOf (fs.lookup? loc))).2).lookup? loc) :
    (fs'.revise p op).1 = (fs.revise p op).1 ∧
      AgreeOff more (fs.revise p op).2 (fs'.revise p op).2 := by
  by_cases hdir : fs.lookup? loc = some .directory
  · have hdir' := (h.directory loc).2 hdir
    rw [revise_of_directory hloc hdir, revise_of_directory hloc' hdir']
    refine ⟨rfl, h.update h.current (fun _ _ => ⟨rfl, rfl⟩) hmore (fun _ => ?_) (h.directory loc)⟩
    rw [hdir, hdir']
  · have hdir' : fs'.lookup? loc ≠ some .directory := fun h' => hdir ((h.directory loc).1 h')
    rw [FileSystem.revise_of_free hloc hdir, FileSystem.revise_of_free hloc' hdir']
    refine ⟨?_, h.change hdir hmore fun hmem => hc hmem hdir⟩
    by_cases hmem : loc ∈ hidden
    · exact hop hmem _ _
    · rw [h.lookup? loc hmem]

theorem revise_of_locate {loc : Location} (h : AgreeOff hidden fs fs') {op : Operation}
    (hloc : fs.locate p = .ok loc) (hloc' : fs'.locate p = .ok loc)
    (hop : loc ∈ hidden → op.Steady loc) :
    (fs'.revise p op).1 = (fs.revise p op).1 ∧
      AgreeOff hidden (fs.revise p op).2 (fs'.revise p op).2 := by
  refine h.revise_of_free hloc hloc' hop (fun _ hmem _ => hmem) fun hmem hfree => ?_
  rw [h.lookup? loc hmem]
  exact (lookup?_change_self (ne_nil_of_lookup? hfree) _ (h.lookup? loc hmem).symm).symm

/-- **An operation on a file comes to the same whatever is in the file.** -/
theorem revise (h : AgreeOff hidden fs fs') (hdir : KeepsOff hidden fs dir) (hname : IsName name)
    (op : Operation) (hop : ∀ loc ∈ hidden, fs.locate (dir.join ⟨name⟩) = .ok loc → op.Steady loc) :
    (fs'.revise (dir.join ⟨name⟩) op).1 = (fs.revise (dir.join ⟨name⟩) op).1 ∧
      AgreeOff hidden (fs.revise (dir.join ⟨name⟩) op).2
        (fs'.revise (dir.join ⟨name⟩) op).2 := by
  have hsame := h.locate_join hdir hname
  cases hloc : fs.locate (dir.join ⟨name⟩) with
  | error e =>
    rw [revise_of_nowhere hloc, revise_of_nowhere (hsame.trans hloc)]
    exact ⟨rfl, h⟩
  | ok loc => exact h.revise_of_locate hloc (hsame.trans hloc) fun hmem => hop loc hmem hloc

/-- **A file that is removed makes no difference any more.** -/
theorem removing {loc : Location} (h : AgreeOff hidden fs fs') (hdir : KeepsOff hidden fs dir)
    (hname : IsName name) (hloc : fs.locate (dir.join ⟨name⟩) = .ok loc)
    (hremove : limits.remove loc = none) :
    (fs'.revise (dir.join ⟨name⟩) (.removing limits)).1 =
        (fs.revise (dir.join ⟨name⟩) (.removing limits)).1 ∧
      AgreeOff (hidden \ {loc}) (fs.revise (dir.join ⟨name⟩) (.removing limits)).2
        (fs'.revise (dir.join ⟨name⟩) (.removing limits)).2 := by
  refine h.revise_of_free hloc ((h.locate_join hdir hname).trans hloc)
    (fun _ => Operation.steady_removing hremove) (fun other hmem hne => ⟨hmem, hne⟩) ?_
  intro _ hfree
  rw [lookup?_removed hremove hfree,
    lookup?_removed hremove fun hdir' => hfree ((h.directory loc).1 hdir')]

/-- **What a removal of the file comes to** is the same in both. -/
theorem removeFileIfExists {loc : Location} (h : AgreeOff hidden fs fs')
    (hdir : KeepsOff hidden fs dir) (hname : IsName name) (hremove : limits.remove loc = none)
    (hplace : fs.place (dir.join ⟨name⟩) = loc)
    (hloc : loc ∈ hidden → fs.locate (dir.join ⟨name⟩) = .ok loc) :
    Alike (hidden \ {loc}) (fs.removeFileIfExists (dir.join ⟨name⟩) limits)
      (fs'.removeFileIfExists (dir.join ⟨name⟩) limits) := by
  have hrevise : (fs'.revise (dir.join ⟨name⟩) (.removing limits)).1 =
        (fs.revise (dir.join ⟨name⟩) (.removing limits)).1 ∧
      AgreeOff (hidden \ {loc}) (fs.revise (dir.join ⟨name⟩) (.removing limits)).2
        (fs'.revise (dir.join ⟨name⟩) (.removing limits)).2 := by
    by_cases hmem : loc ∈ hidden
    · exact h.removing hdir hname (hloc hmem) hremove
    · rw [Set.sdiff_singleton_eq_self hmem]
      refine h.revise hdir hname _ fun other _ hother => Operation.steady_removing ?_
      rwa [← place_of_locate hother, hplace]
  rw [revise_removing hname, revise_removing hname] at hrevise
  obtain ⟨hresult, hagree⟩ := hrevise
  cases hr : fs.removeFileIfExists (dir.join ⟨name⟩) limits <;>
    cases hr' : fs'.removeFileIfExists (dir.join ⟨name⟩) limits <;>
    simp only [hr, hr'] at hresult hagree
  · exact Except.error.inj hresult
  · cases hresult
  · cases hresult
  · exact hagree

/-- **What a write of the file comes to** is the same in both. -/
theorem writeBytes {content : ByteArray} (h : AgreeOff hidden fs fs')
    (hdir : KeepsOff hidden fs dir) (hname : IsName name)
    (hwrite : limits.overwrite (fs.place (dir.join ⟨name⟩)) =
      limits.create (fs.place (dir.join ⟨name⟩))) :
    (∃ e left left', fs.writeBytes (dir.join ⟨name⟩) content limits = .error ⟨e, left⟩ ∧
      fs'.writeBytes (dir.join ⟨name⟩) content limits = .error ⟨e, left'⟩ ∧
      AgreeOff hidden left left') ∨
    ∃ left left', fs.writeBytes (dir.join ⟨name⟩) content limits = .ok left ∧
      fs'.writeBytes (dir.join ⟨name⟩) content limits = .ok left' ∧ AgreeOff hidden left left' := by
  have hrevise := h.revise hdir hname (.writing content limits) fun loc _ hloc =>
    Operation.steady_writing (place_of_locate hloc ▸ hwrite) content
  rw [revise_writing hname, revise_writing hname] at hrevise
  obtain ⟨hresult, hagree⟩ := hrevise
  cases hr : fs.writeBytes (dir.join ⟨name⟩) content limits <;>
    cases hr' : fs'.writeBytes (dir.join ⟨name⟩) content limits <;>
    simp only [hr, hr', outcome] at hresult hagree
  · rename_i refusal refusal'
    exact .inl ⟨_, refusal.left, refusal'.left, rfl, by rw [← Except.error.inj hresult], hagree⟩
  · cases hresult
  · cases hresult
  · exact .inr ⟨_, _, rfl, rfl, hagree⟩

/-- A file off the locations is read the same. -/
theorem readText (h : AgreeOff hidden fs fs') (hdir : KeepsOff hidden fs dir)
    (hname : IsName name) (hfree : fs.place (dir.join ⟨name⟩) ∉ hidden) :
    fs'.readText (dir.join ⟨name⟩) = fs.readText (dir.join ⟨name⟩) := by
  unfold FileSystem.readText FileSystem.readBytes
  rw [h.locate_join hdir hname]
  cases hloc : fs.locate (dir.join ⟨name⟩) with
  | error e => rfl
  | ok loc =>
    rw [place_of_locate hloc] at hfree
    simp only [bind, Except.bind, h.lookup? loc hfree]

end AgreeOff

end Clinker.FileSystem

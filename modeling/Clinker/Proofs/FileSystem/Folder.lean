import Clinker.Proofs.FileSystem.Directories

/-!
# What happens in a folder

A path in a folder leads to the home of the folder and from there to its name (`locate_join`). So
two file systems that agree on the home and on what some names in it stand for
(`AgreeOn`) cannot be told apart through these names: whatever an operation does to one of them
it does to the other (`AgreeOn.revise`). And an operation on another name leaves a file system that
agrees with the first one (`agreeOn_revise`), because it puts no directory anywhere and takes none
away, so that every path still leads where it led.
-/

namespace Clinker.FileSystem

open Clinker.Path (IsName)

variable {fs fs' fs'' : FileSystem} {dir : Path} {name : String} {names : List String}
  {limits : Limits}

/-! ## Where a name leads -/

/-- The location of a folder, if names can be looked up there. -/
def home (fs : FileSystem) (dir : Path) : Except SystemError Location :=
  fs.walk (if dir.isAbsolute then [] else fs.current) (dir.steps ++ ["."])

/-- Where a name in a folder leads, from the home of the folder. -/
def placeIn (dir : Path) (name : String) (home : Except SystemError Location) :
    Except SystemError Location :=
  if (dir.join ⟨name⟩).text.toList.contains '\x00' then .error .nulInPath
  else if maxPathBytes ≤ (dir.join ⟨name⟩).text.utf8ByteSize then .error .nameTooLong
  else home.bind fun loc =>
    if maxNameBytes < name.utf8ByteSize then .error .nameTooLong else .ok (loc ++ [name])

theorem placeIn_eq_ok {home : Except SystemError Location} {loc : Location}
    (h : placeIn dir name home = .ok loc) : ∃ base, home = .ok base ∧ loc = base ++ [name] := by
  unfold placeIn at h
  cases home with
  | error e =>
    simp only [Except.bind] at h
    split_ifs at h
  | ok base =>
    simp only [Except.bind] at h
    split_ifs at h
    cases h
    exact ⟨base, rfl, rfl⟩

/-- The last step of a walk asks for a directory, as `.` does, and then for the name. -/
theorem walk_name (h : IsName name) (fs : FileSystem) (start : Location) :
    fs.walk start [name] = (fs.walk start ["."]).bind fun loc =>
      if maxNameBytes < name.utf8ByteSize then .error .nameTooLong else .ok (loc ++ [name]) := by
  rcases hstart : fs.lookup? start with _ | _ | ⟨content, executable⟩
  · simp [walk, hstart, Except.bind]
  · simp [walk, hstart, Except.bind, h.ne_here, h.ne_up]
  · simp [walk, hstart, Except.bind]

/-- **A path in a folder leads to the home of the folder and then to its name.** -/
theorem locate_join (h : IsName name) (fs : FileSystem) :
    fs.locate (dir.join ⟨name⟩) = placeIn dir name (fs.home dir) := by
  rw [locate, placeIn, Path.isEmpty_join h, Path.isAbsolute_join h, Path.steps_join h,
    if_neg Bool.false_ne_true, home, walk_append, walk_append]
  cases fs.walk (if dir.isAbsolute then [] else fs.current) dir.steps with
  | error e => rfl
  | ok loc =>
    simp only [Except.bind, walk_name h]

theorem endsInName_join (h : IsName name) : endsInName (dir.join ⟨name⟩) = true := by
  simp [endsInName, Path.steps_join h, h.ne_here, h.ne_up]

/-! ## Directories stay -/

/-- Every directory is still a directory, and paths start where they started. -/
structure Keeps (fs fs' : FileSystem) : Prop where
  current : fs'.current = fs.current
  directories : ∀ loc, fs.lookup? loc = some .directory → fs'.lookup? loc = some .directory

namespace Keeps

/-- **Where directories stay, every walk goes on as before.** -/
theorem walk (h : Keeps fs fs') : ∀ (steps : List String) {start reached : Location},
    fs.walk start steps = .ok reached → fs'.walk start steps = .ok reached
  | [], _, _, hwalk => hwalk
  | step :: steps, start, reached, hwalk => by
    have hstart := lookup?_of_walk_cons hwalk
    unfold FileSystem.walk at hwalk ⊢
    simp only [hstart] at hwalk
    simp only [h.directories start hstart]
    split_ifs at hwalk ⊢ <;> exact h.walk steps hwalk

theorem home (h : Keeps fs fs') {base : Location} (hbase : fs.home dir = .ok base) :
    fs'.home dir = .ok base := by
  unfold FileSystem.home at *
  rw [h.current]
  exact h.walk _ hbase

theorem locate (h : Keeps fs fs') {p : Path} {loc : Location} (hp : fs.locate p = .ok loc) :
    fs'.locate p = .ok loc := by
  obtain ⟨hnul, hempty, hsize, hwalk⟩ := locate_eq_ok.1 hp
  refine locate_eq_ok.2 ⟨hnul, hempty, hsize, ?_⟩
  rw [h.current]
  exact h.walk _ hwalk

theorem isDirectory (h : Keeps fs fs') {p : Path} (hp : fs.isDirectory p = true) :
    fs'.isDirectory p = true := by
  obtain ⟨loc, hloc, hdir⟩ := isDirectory_iff.1 hp
  exact isDirectory_iff.2 ⟨loc, h.locate hloc, h.directories loc hdir⟩

end Keeps

/-! ## Changes to one file -/

/-- What becomes of the file at a location. -/
inductive Change
  | keep
  | write (content : ByteArray) (executable : Bool)
  | remove

/-- Make a change at a location. -/
def change (fs : FileSystem) (loc : Location) : Change → FileSystem
  | .keep => fs
  | .write content executable => fs.set loc (.file content executable)
  | .remove => fs.erase loc

theorem lookup?_change_of_ne {loc other : Location} (h : other ≠ loc) (c : Change) :
    (fs.change loc c).lookup? other = fs.lookup? other := by
  cases c with
  | keep => rfl
  | write content executable => exact lookup?_set_of_ne fs h _
  | remove => exact lookup?_erase_of_ne fs h

theorem lookup?_change_self {loc : Location} (hne : loc ≠ []) (c : Change)
    (h : fs.lookup? loc = fs'.lookup? loc) :
    (fs.change loc c).lookup? loc = (fs'.change loc c).lookup? loc := by
  cases c with
  | keep => exact h
  | write content executable =>
    exact (lookup?_set_self fs hne _).trans (lookup?_set_self fs' hne _).symm
  | remove => exact (lookup?_erase_self fs hne).trans (lookup?_erase_self fs' hne).symm

/-- No change makes a directory. -/
theorem lookup?_change_ne_directory {loc : Location} (h : fs.lookup? loc ≠ some .directory)
    (c : Change) : (fs.change loc c).lookup? loc ≠ some .directory := by
  have hne := ne_nil_of_lookup? h
  cases c with
  | keep => exact h
  | write content executable =>
    rw [change, lookup?_set_self fs hne]
    simp
  | remove =>
    rw [change, lookup?_erase_self fs hne]
    simp

theorem keeps_change {loc : Location} (h : fs.lookup? loc ≠ some .directory) (c : Change) :
    Keeps fs (fs.change loc c) where
  current := by cases c <;> rfl
  directories := by
    intro other hdir
    have hne : other ≠ loc := by
      rintro rfl
      exact h hdir
    rw [lookup?_change_of_ne hne, hdir]

/-- **What was removed cannot be read.** -/
theorem readBytes_of_removed {p : Path} (h : fs.removeFileIfExists p limits = .ok fs') :
    fs'.readBytes p = .error .notFound := by
  obtain ⟨rfl, hread⟩ | ⟨loc, hloc, -, -, hfree, rfl⟩ := removeFileIfExists_eq_ok h
  · exact hread
  · have hlocate : (fs.erase loc).locate p = .ok loc := (keeps_change hfree .remove).locate hloc
    have hgone := lookup?_erase_self fs (ne_nil_of_lookup? hfree)
    simp only [readBytes, hlocate, bind, Except.bind, hgone]

theorem keeps_writeText {p : Path} {text : String} (h : fs.writeText p text limits = .ok fs') :
    Keeps fs fs' := by
  obtain ⟨loc, executable, -, -, -, hfree, rfl⟩ := writeBytes_eq_ok h
  exact keeps_change hfree (.write _ executable)

/-! ## Operations on one file -/

/-- The file that an entry is, if it is one. -/
def fileOf : Option Entry → Option (ByteArray × Bool)
  | some (.file content executable) => some (content, executable)
  | _ => none

/-- What an operation on a file comes to where its path leads nowhere, and what it comes to and does
at a location where it finds a file or nothing. -/
structure Operation where
  nowhere : SystemError → Except SystemError Unit
  here : Location → Option (ByteArray × Bool) → Except SystemError Unit × Change

/-- Do an operation on the file at a path. It is refused where a directory is. -/
def revise (fs : FileSystem) (p : Path) (op : Operation) : Except SystemError Unit × FileSystem :=
  match fs.locate p with
  | .error e => (op.nowhere e, fs)
  | .ok loc =>
    match fs.lookup? loc with
    | some .directory => (.error .isADirectory, fs)
    | entry => ((op.here loc (fileOf entry)).1, fs.change loc (op.here loc (fileOf entry)).2)

namespace Operation

/-- Putting content into a file that has been opened. -/
def filling (content : ByteArray) (executable : Bool) (limits : Limits) (loc : Location) :
    Except SystemError Unit × Change :=
  match limits.room loc with
  | none => (.ok (), .write content executable)
  | some (bytes, why) =>
    if bytes < content.size then
      (.error (.other why), .write (content.extract 0 bytes) executable)
    else (.ok (), .write content executable)

/-- Giving a file new content. -/
def writing (content : ByteArray) (limits : Limits) : Operation where
  nowhere := .error
  here loc
    | some (_, executable) =>
      match limits.overwrite loc with
      | some why => (.error (.other why), .keep)
      | none => filling content executable limits loc
    | none =>
      match limits.create loc with
      | some why => (.error (.other why), .keep)
      | none => filling content false limits loc

/-- Removing a file, if there is one. -/
def removing (limits : Limits) : Operation where
  nowhere
    | .notFound => .ok ()
    | e => .error e
  here loc
    | some _ =>
      match limits.remove loc with
      | some why => (.error (.other why), .keep)
      | none => (.ok (), .remove)
    | none => (.ok (), .keep)

end Operation

/-- What a write has come to, and the file system it has left. -/
def outcome : Except Refusal FileSystem → Except SystemError Unit × FileSystem
  | .ok fs => (.ok (), fs)
  | .error refusal => (.error refusal.cause, refusal.left)

theorem outcome_fill (fs : FileSystem) (loc : Location) (content : ByteArray) (executable : Bool)
    (limits : Limits) : outcome (fs.fill loc content executable limits) =
      ((Operation.filling content executable limits loc).1,
        fs.change loc (Operation.filling content executable limits loc).2) := by
  unfold Operation.filling fill
  rcases limits.room loc with _ | ⟨bytes, why⟩
  · rfl
  · simp only
    split_ifs <;> rfl

/-- **Writing a file in a folder is an operation on it.** -/
theorem revise_writing (h : IsName name) (fs : FileSystem) (content : ByteArray)
    (limits : Limits) : fs.revise (dir.join ⟨name⟩) (.writing content limits) =
      outcome (fs.writeBytes (dir.join ⟨name⟩) content limits) := by
  have hend : (!endsInName (dir.join ⟨name⟩) || (dir.join ⟨name⟩).endsInSeparator) = false := by
    rw [endsInName_join h, Path.endsInSeparator_join h]
    rfl
  unfold writeBytes revise
  cases fs.locate (dir.join ⟨name⟩) with
  | error e => rfl
  | ok loc =>
    simp only [hend, Bool.false_eq_true, if_false]
    rcases fs.lookup? loc with _ | _ | ⟨old, executable⟩
    · cases hcreate : limits.create loc with
      | none => simp only [Operation.writing, fileOf, hcreate, outcome_fill]
      | some why =>
        simp only [Operation.writing, fileOf, hcreate]
        rfl
    · rfl
    · cases hwrite : limits.overwrite loc with
      | none => simp only [Operation.writing, fileOf, hwrite, outcome_fill]
      | some why =>
        simp only [Operation.writing, fileOf, hwrite]
        rfl

/-- **Removing a file in a folder is an operation on it.** -/
theorem revise_removing (h : IsName name) (fs : FileSystem) (limits : Limits) :
    fs.revise (dir.join ⟨name⟩) (.removing limits) =
      match fs.removeFileIfExists (dir.join ⟨name⟩) limits with
      | .ok fs' => (.ok (), fs')
      | .error e => (.error e, fs) := by
  unfold removeFileIfExists removeFile revise
  cases fs.locate (dir.join ⟨name⟩) with
  | error e => cases e <;> rfl
  | ok loc =>
    simp only [bind, Except.bind, endsInName_join h, Path.endsInSeparator_join h]
    rcases fs.lookup? loc with _ | _ | ⟨old, executable⟩
    · rfl
    · rfl
    · cases hremove : limits.remove loc
      all_goals
        simp only [Operation.removing, fileOf, hremove]
        rfl

/-- An operation makes a change where no directory is, if any. -/
theorem revise_cases (fs : FileSystem) (p : Path) (op : Operation) :
    (fs.revise p op).2 = fs ∨ ∃ loc c, fs.locate p = .ok loc ∧
      fs.lookup? loc ≠ some .directory ∧ (fs.revise p op).2 = fs.change loc c := by
  unfold revise
  cases fs.locate p with
  | error e => exact .inl rfl
  | ok loc =>
    simp only
    rcases hentry : fs.lookup? loc with _ | _ | ⟨content, executable⟩
    · exact .inr ⟨loc, _, rfl, by simp [hentry], rfl⟩
    · exact .inl rfl
    · exact .inr ⟨loc, _, rfl, by simp [hentry], rfl⟩

theorem keeps_revise (fs : FileSystem) (p : Path) (op : Operation) :
    Keeps fs (fs.revise p op).2 := by
  obtain h | ⟨loc, c, -, hfree, h⟩ := revise_cases fs p op
  all_goals rw [h]
  · exact ⟨rfl, fun _ hdir => hdir⟩
  · exact keeps_change hfree c

/-! ## Folders that are there -/

/-- The directory that paths in a folder lie in is there, if it has a path of its own. -/
def Settled (dir : Path) (fs : FileSystem) : Prop :=
  dir.folder.isEmpty = true ∨ fs.isDirectory dir.folder = true

theorem Keeps.settled (h : Keeps fs fs') (hs : Settled dir fs) : Settled dir fs' :=
  hs.imp_right h.isDirectory

/-- Create the directory that paths in a folder lie in, if it has a path of its own. -/
def createFolder (fs : FileSystem) (dir : Path) (limits : Limits) :
    Except SystemError Unit × FileSystem :=
  if dir.folder.isEmpty then (.ok (), fs) else fs.createDirectories dir.folder limits

/-- **All paths in a folder have the same directory created.** -/
theorem createParent_join (h : IsName name) (fs : FileSystem) (limits : Limits) :
    fs.createParent (dir.join ⟨name⟩) limits = fs.createFolder dir limits := by
  rw [createParent, createFolder, Path.writtenParent?, Path.parent?_join h]
  cases hempty : dir.folder.isEmpty <;> simp [Option.filter, hempty]

/-- In a folder that is there nothing is created. -/
theorem createFolder_of_settled (hs : Settled dir fs) :
    fs.createFolder dir limits = (.ok (), fs) := by
  rw [createFolder]
  split_ifs with hempty
  · rfl
  · exact createDirectories_of_isDirectory (hs.resolve_left hempty)

/-- **A folder that was created is there.** -/
theorem settled_of_createFolder (h : fs.createFolder dir limits = (.ok (), fs')) :
    Settled dir fs' := by
  rw [createFolder] at h
  split_ifs at h with hempty
  · exact .inl hempty
  · exact .inr (isDirectory_of_createDirectories (Bool.eq_false_iff.2 hempty) h)

/-- **A folder that could not be created cannot be created later.** -/
theorem createFolder_again_error {e : SystemError}
    (h : fs.createFolder dir limits = (.error e, fs')) :
    ∃ again, fs'.createFolder dir limits = (.error again, fs') := by
  unfold createFolder at *
  split_ifs at h ⊢ with hempty
  · cases h
  · exact createDirectories_again_error h

/-! ## Agreement -/

/-- Two file systems in which a folder is there agree on its home and on what is at some names
in it. -/
structure AgreeOn (dir : Path) (names : List String) (fs fs' : FileSystem) : Prop where
  settled : Settled dir fs
  settled' : Settled dir fs'
  current : fs'.current = fs.current
  home : fs'.home dir = fs.home dir
  places : ∀ base, fs.home dir = .ok base → ∀ name ∈ names,
    fs'.lookup? (base ++ [name]) = fs.lookup? (base ++ [name])

namespace AgreeOn

theorem refl (hs : Settled dir fs) : AgreeOn dir names fs fs :=
  ⟨hs, hs, rfl, rfl, fun _ _ _ _ => rfl⟩

theorem symm (h : AgreeOn dir names fs fs') : AgreeOn dir names fs' fs :=
  ⟨h.settled', h.settled, h.current.symm, h.home.symm,
    fun base hbase name hname => (h.places base (h.home ▸ hbase) name hname).symm⟩

theorem trans (h : AgreeOn dir names fs fs') (h' : AgreeOn dir names fs' fs'') :
    AgreeOn dir names fs fs'' where
  settled := h.settled
  settled' := h'.settled'
  current := h'.current.trans h.current
  home := h'.home.trans h.home
  places := fun base hbase name hname =>
    (h'.places base (h.home ▸ hbase) name hname).trans (h.places base hbase name hname)

theorem locate (h : AgreeOn dir names fs fs') (hname : IsName name) :
    fs'.locate (dir.join ⟨name⟩) = fs.locate (dir.join ⟨name⟩) := by
  rw [locate_join hname, locate_join hname, h.home]

theorem lookup? (h : AgreeOn dir names fs fs') (hname : IsName name) (hmem : name ∈ names)
    {loc : Location} (hloc : fs.locate (dir.join ⟨name⟩) = .ok loc) :
    fs'.lookup? loc = fs.lookup? loc := by
  rw [locate_join hname] at hloc
  obtain ⟨base, hbase, rfl⟩ := placeIn_eq_ok hloc
  exact h.places base hbase name hmem

theorem readBytes (h : AgreeOn dir names fs fs') (hname : IsName name) (hmem : name ∈ names) :
    fs'.readBytes (dir.join ⟨name⟩) = fs.readBytes (dir.join ⟨name⟩) := by
  unfold FileSystem.readBytes
  rw [h.locate hname]
  cases hloc : fs.locate (dir.join ⟨name⟩) with
  | error e => rfl
  | ok loc => simp only [bind, Except.bind, h.lookup? hname hmem hloc]

theorem readText (h : AgreeOn dir names fs fs') (hname : IsName name) (hmem : name ∈ names) :
    fs'.readText (dir.join ⟨name⟩) = fs.readText (dir.join ⟨name⟩) := by
  simp only [FileSystem.readText, h.readBytes hname hmem]

end AgreeOn

/-! ## Operations in a folder -/

/-- **A change at one name is none for the others.** -/
theorem agreeOn_change (hs : Settled dir fs) (hname : IsName name) (hmem : name ∉ names)
    {loc : Location} (hloc : fs.locate (dir.join ⟨name⟩) = .ok loc)
    (hfree : fs.lookup? loc ≠ some .directory) (c : Change) :
    AgreeOn dir names fs (fs.change loc c) := by
  have hkeeps := keeps_change hfree c
  rw [locate_join hname] at hloc
  obtain ⟨base, hbase, rfl⟩ := placeIn_eq_ok hloc
  refine ⟨hs, hkeeps.settled hs, hkeeps.current, (hkeeps.home hbase).trans hbase.symm, ?_⟩
  intro base' hbase' other hother
  rw [hbase, Except.ok.injEq] at hbase'
  subst hbase'
  refine lookup?_change_of_ne (fun heq => hmem ?_) c
  rwa [← (List.append_singleton_inj.1 heq).2]

/-- **One change keeps an agreement that the name is part of.** -/
theorem AgreeOn.change (h : AgreeOn dir names fs fs') (hname : IsName name) (hmem : name ∈ names)
    {loc : Location} (hloc : fs.locate (dir.join ⟨name⟩) = .ok loc)
    (hfree : fs.lookup? loc ≠ some .directory) (c : Change) :
    AgreeOn dir names (fs.change loc c) (fs'.change loc c) := by
  have hlookup := h.lookup? hname hmem hloc
  have hkeeps := keeps_change hfree c
  have hkeeps' := keeps_change (hlookup ▸ hfree) c
  have hne := ne_nil_of_lookup? hfree
  rw [locate_join hname] at hloc
  obtain ⟨base, hbase, rfl⟩ := placeIn_eq_ok hloc
  have hhome := hkeeps.home hbase
  refine ⟨hkeeps.settled h.settled, hkeeps'.settled h.settled', ?_, ?_, ?_⟩
  · rw [hkeeps.current, hkeeps'.current, h.current]
  · rw [hhome, hkeeps'.home (h.home.trans hbase)]
  · intro base' hbase' other hother
    rw [hhome, Except.ok.injEq] at hbase'
    subst hbase'
    by_cases heq : base ++ [other] = base ++ [name]
    · rw [heq]
      exact lookup?_change_self hne c hlookup
    · rw [lookup?_change_of_ne heq, lookup?_change_of_ne heq, h.places base hbase other hother]

/-- **An operation on one name is none on the others.** -/
theorem agreeOn_revise (hs : Settled dir fs) (hname : IsName name) (hmem : name ∉ names)
    (op : Operation) : AgreeOn dir names fs (fs.revise (dir.join ⟨name⟩) op).2 := by
  obtain h | ⟨loc, c, hloc, hfree, h⟩ := revise_cases fs (dir.join ⟨name⟩) op
  all_goals rw [h]
  · exact .refl hs
  · exact agreeOn_change hs hname hmem hloc hfree c

/-- **An operation cannot tell file systems apart that agree on its name.** -/
theorem AgreeOn.revise (h : AgreeOn dir names fs fs') (hname : IsName name) (hmem : name ∈ names)
    (op : Operation) :
    (fs'.revise (dir.join ⟨name⟩) op).1 = (fs.revise (dir.join ⟨name⟩) op).1 ∧
      AgreeOn dir names (fs.revise (dir.join ⟨name⟩) op).2
        (fs'.revise (dir.join ⟨name⟩) op).2 := by
  unfold FileSystem.revise
  rw [h.locate hname]
  cases hloc : fs.locate (dir.join ⟨name⟩) with
  | error e => exact ⟨rfl, h⟩
  | ok loc =>
    simp only [h.lookup? hname hmem hloc]
    rcases hentry : fs.lookup? loc with _ | _ | ⟨content, executable⟩
    · exact ⟨rfl, h.change hname hmem hloc (by simp [hentry]) _⟩
    · exact ⟨rfl, h⟩
    · exact ⟨rfl, h.change hname hmem hloc (by simp [hentry]) _⟩

end Clinker.FileSystem

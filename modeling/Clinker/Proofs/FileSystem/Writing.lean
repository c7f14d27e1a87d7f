import Clinker.Encoding.Utf8
import Clinker.FileSystem.Operations
import Mathlib.Tactic.SplitIfs

/-!
# Files hold what is written to them

What is read is the file under the path (`readText_eq_ok_iff`). A write that is not refused puts a
file where no directory was (`writeBytes_eq_ok`), and one that is refused leaves everything as it
was or has broken off (`writeBytes_eq_error`). Either way every path that led somewhere still leads
there (`walk_set`), and a file that was written is read back by the same path
(`readText_of_writeText`).
-/

namespace Clinker.FileSystem

variable {fs fs' : FileSystem} {p : Path} {limits : Limits}

/-! ## What a read finds -/

/-- **What is read is the content of the file under the path.** -/
theorem readBytes_eq_ok_iff {content : ByteArray} : fs.readBytes p = .ok content ↔
    ∃ executable, fs.stat? p = some (.file content executable) := by
  unfold readBytes stat?
  cases fs.locate p with
  | error e => simp [bind, Except.bind]
  | ok loc =>
    simp only [bind, Except.bind]
    rcases fs.lookup? loc with _ | _ | ⟨found, executable⟩
    · simp
    · simp
    · cases p.endsInSeparator <;> simp

theorem readText_eq_ok_iff {text : String} : fs.readText p = .ok text ↔
    ∃ content executable, fs.stat? p = some (.file content executable) ∧
      String.fromUTF8? content = some text := by
  unfold readText
  cases hbytes : fs.readBytes p with
  | error e =>
    have hnone : ∀ content executable, fs.stat? p ≠ some (.file content executable) := by
      intro content executable hstat
      rw [readBytes_eq_ok_iff.2 ⟨executable, hstat⟩] at hbytes
      cases hbytes
    simp [bind, Except.bind, hnone]
  | ok content =>
    obtain ⟨executable, hstat⟩ := readBytes_eq_ok_iff.1 hbytes
    simp only [bind, Except.bind, hstat, Option.some.injEq, Entry.file.injEq]
    cases htext : String.fromUTF8? content with
    | none => simp [htext]
    | some found => simp [htext]

/-! ## What a write does -/

/-- A write to a file that has been opened is done, or breaks off after some of the content. -/
theorem fill_cases (fs : FileSystem) (loc : Location) (content : ByteArray) (executable : Bool)
    (limits : Limits) :
    fs.fill loc content executable limits = .ok (fs.set loc (.file content executable)) ∨
    ∃ bytes why, limits.room loc = some (bytes, why) ∧ bytes < content.size ∧
      fs.fill loc content executable limits =
        .error ⟨.other why, fs.set loc (.file (content.extract 0 bytes) executable)⟩ := by
  unfold fill
  rcases hroom : limits.room loc with _ | ⟨bytes, why⟩
  · exact .inl rfl
  · by_cases hless : bytes < content.size
    · exact .inr ⟨bytes, why, rfl, hless, if_pos hless⟩
    · exact .inl (if_neg hless)

/-- **A write is refused and changes nothing, or a file is opened where no directory is** and gets
the content. -/
theorem writeBytes_cases (fs : FileSystem) (p : Path) (content : ByteArray) (limits : Limits) :
    (∃ e, fs.writeBytes p content limits = .error ⟨e, fs⟩) ∨
    ∃ loc executable, fs.locate p = .ok loc ∧ endsInName p = true ∧ p.endsInSeparator = false ∧
      fs.lookup? loc ≠ some .directory ∧
      fs.writeBytes p content limits = fs.fill loc content executable limits := by
  unfold writeBytes
  cases hloc : fs.locate p with
  | error e => exact .inl ⟨e, rfl⟩
  | ok loc =>
    simp only
    split_ifs with hend
    · exact .inl ⟨.isADirectory, rfl⟩
    obtain ⟨hname, hsep⟩ : endsInName p = true ∧ p.endsInSeparator = false := by simp_all
    rcases hentry : fs.lookup? loc with _ | _ | ⟨old, executable⟩
    · cases hcreate : limits.create loc with
      | some why => exact .inl ⟨.other why, rfl⟩
      | none => exact .inr ⟨loc, false, rfl, hname, hsep, by simp [hentry], rfl⟩
    · exact .inl ⟨.isADirectory, rfl⟩
    · cases hwrite : limits.overwrite loc with
      | some why => exact .inl ⟨.other why, rfl⟩
      | none => exact .inr ⟨loc, executable, rfl, hname, hsep, by simp [hentry], rfl⟩

/-- **A write that is not refused sets one location**, which holds no directory. -/
theorem writeBytes_eq_ok {content : ByteArray} (h : fs.writeBytes p content limits = .ok fs') :
    ∃ loc executable, fs.locate p = .ok loc ∧ endsInName p = true ∧ p.endsInSeparator = false ∧
      fs.lookup? loc ≠ some .directory ∧ fs' = fs.set loc (.file content executable) := by
  obtain ⟨e, hwrite⟩ | ⟨loc, executable, hloc, hname, hsep, hfree, hwrite⟩ :=
    writeBytes_cases fs p content limits
  · rw [hwrite] at h
    cases h
  · rw [hwrite] at h
    obtain hfill | ⟨_, _, -, -, hfill⟩ := fill_cases fs loc content executable limits
    · rw [hfill, Except.ok.injEq] at h
      exact ⟨loc, executable, hloc, hname, hsep, hfree, h.symm⟩
    · rw [hfill] at h
      cases h

/-- **A write that is refused has changed nothing, or it has broken off** and left the beginning of
the content. -/
theorem writeBytes_eq_error {content : ByteArray} {refusal : Refusal}
    (h : fs.writeBytes p content limits = .error refusal) :
    refusal.left = fs ∨ ∃ loc executable bytes why, fs.locate p = .ok loc ∧
      p.endsInSeparator = false ∧ fs.lookup? loc ≠ some .directory ∧
      limits.room loc = some (bytes, why) ∧ bytes < content.size ∧ refusal =
        ⟨.other why, fs.set loc (.file (content.extract 0 bytes) executable)⟩ := by
  obtain ⟨e, hwrite⟩ | ⟨loc, executable, hloc, -, hsep, hfree, hwrite⟩ :=
    writeBytes_cases fs p content limits
  · rw [hwrite, Except.error.injEq] at h
    exact .inl (h ▸ rfl)
  · rw [hwrite] at h
    obtain hfill | ⟨bytes, why, hroom, hless, hfill⟩ := fill_cases fs loc content executable limits
    · rw [hfill] at h
      cases h
    · rw [hfill, Except.error.injEq] at h
      exact .inr ⟨loc, executable, bytes, why, hloc, hsep, hfree, hroom, hless, h.symm⟩

/-- **A removal that is not refused** finds nothing, or erases one location. -/
theorem removeFileIfExists_eq_ok (h : fs.removeFileIfExists p limits = .ok fs') :
    fs' = fs ∧ fs.readBytes p = .error .notFound ∨
    ∃ loc, fs.locate p = .ok loc ∧ endsInName p = true ∧ p.endsInSeparator = false ∧
      fs.lookup? loc ≠ some .directory ∧ fs' = fs.erase loc := by
  unfold removeFileIfExists removeFile at h
  unfold readBytes
  cases hloc : fs.locate p with
  | error e =>
    simp only [hloc, bind, Except.bind] at h
    cases e <;> simp_all [bind, Except.bind]
  | ok loc =>
    simp only [hloc, bind, Except.bind] at h ⊢
    rcases hentry : fs.lookup? loc with _ | _ | ⟨content, executable⟩
    all_goals
      simp only [hentry] at h
      split_ifs at h
    · exact .inl ⟨(Except.ok.inj h).symm, rfl⟩
    · cases hremove : limits.remove loc with
      | some why => simp [hremove] at h
      | none =>
        simp only [hremove, Except.ok.injEq] at h
        exact .inr ⟨loc, rfl, by simp_all, by simp_all, by simp [hentry], h.symm⟩

theorem ne_nil_of_lookup? {loc : Location} (h : fs.lookup? loc ≠ some .directory) : loc ≠ [] := by
  rintro rfl
  exact h rfl

/-! ## Paths after a write -/

/-- **Where no directory was, an entry is in nobody's way.** -/
theorem walk_set {loc : Location} (h : fs.lookup? loc ≠ some .directory) (e : Entry) :
    ∀ (steps : List String) {start reached : Location},
      fs.walk start steps = .ok reached → (fs.set loc e).walk start steps = .ok reached
  | [], _, _, hwalk => hwalk
  | step :: steps, start, reached, hwalk => by
    unfold walk at hwalk ⊢
    -- The walk goes on from a directory, and `loc` is none.
    cases hstart : fs.lookup? start with
    | none => simp [hstart] at hwalk
    | some entry =>
      cases entry with
      | file content executable => simp [hstart] at hwalk
      | directory =>
        have hne : start ≠ loc := by
          rintro rfl
          exact h hstart
        rw [lookup?_set_of_ne fs hne, hstart]
        simp only [hstart] at hwalk
        split_ifs at hwalk ⊢ <;> exact walk_set h e steps hwalk

theorem locate_set {loc reached : Location} (h : fs.lookup? loc ≠ some .directory) (e : Entry)
    (hp : fs.locate p = .ok reached) : (fs.set loc e).locate p = .ok reached := by
  unfold locate at hp ⊢
  split_ifs at hp ⊢ <;> exact walk_set h e _ hp

/-! ## Reading back -/

/-- What a file holds is read by a path that leads to it. -/
theorem readBytes_set {loc : Location} {content : ByteArray} {executable : Bool}
    (hloc : fs.locate p = .ok loc) (hsep : p.endsInSeparator = false)
    (hfree : fs.lookup? loc ≠ some .directory) :
    (fs.set loc (.file content executable)).readBytes p = .ok content := by
  have hloc' := locate_set hfree (.file content executable) hloc
  have hentry := lookup?_set_self fs (ne_nil_of_lookup? hfree) (.file content executable)
  simp only [readBytes, hloc', bind, Except.bind, hentry, hsep]
  rfl

theorem readBytes_of_writeBytes {content : ByteArray}
    (h : fs.writeBytes p content limits = .ok fs') : fs'.readBytes p = .ok content := by
  obtain ⟨loc, executable, hloc, -, hsep, hfree, rfl⟩ := writeBytes_eq_ok h
  exact readBytes_set hloc hsep hfree

/-- **A text that was written is read back.** -/
theorem readText_of_writeText {text : String} (h : fs.writeText p text limits = .ok fs') :
    fs'.readText p = .ok text := by
  have hbytes : fs'.readBytes p = .ok text.toUTF8 := readBytes_of_writeBytes h
  have htext : String.fromUTF8? text.toUTF8 = some text :=
    Encoding.Utf8.fromUTF8?_eq_some_iff.2 rfl
  simp only [readText, hbytes, bind, Except.bind, htext]

end Clinker.FileSystem

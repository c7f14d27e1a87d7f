import Clinker.Database
import Mathlib.Tactic.SplitIfs

/-!
# What the database says about each file

The entries of a database are sorted by file and those of one file keep their order, so they are
determined by what is recorded about each file (`entries_eq_of_about`). Recording an entry changes
what is recorded about its own file only (`about_record_of_ne`). So it does not matter in which
order entries of different files are recorded.
-/

namespace Clinker

/-! ## Sorting by file -/

namespace DatabaseEntry

/-- The order in which entries are listed. -/
def fileLE (a b : DatabaseEntry) : Bool := Text.le a.file b.file

theorem fileLE_trans (a b c : DatabaseEntry) (hab : a.fileLE b = true) (hbc : b.fileLE c = true) :
    a.fileLE c = true := by
  simp only [fileLE, Text.le, decide_eq_true_eq] at *
  exact String.le_trans hab hbc

theorem fileLE_total (a b : DatabaseEntry) : (a.fileLE b || b.fileLE a) = true := by
  simp only [fileLE, Text.le, Bool.or_eq_true, decide_eq_true_eq]
  exact String.le_total _ _

theorem file_eq_of_fileLE {a b : DatabaseEntry} (hab : a.fileLE b = true)
    (hba : b.fileLE a = true) : a.file = b.file := by
  simp only [fileLE, Text.le, decide_eq_true_eq] at *
  exact String.le_antisymm hab hba

end DatabaseEntry

open DatabaseEntry

/-- The entries of a list that are about some file. -/
def entriesAbout (file : String) (entries : List DatabaseEntry) : List DatabaseEntry :=
  entries.filter (·.file == file)

theorem entriesAbout_cons (file : String) (e : DatabaseEntry) (entries : List DatabaseEntry) :
    entriesAbout file (e :: entries) =
      if e.file = file then e :: entriesAbout file entries else entriesAbout file entries := by
  rw [entriesAbout, List.filter_cons]
  simp only [beq_iff_eq]
  rfl

theorem mem_entriesAbout {file : String} {entries : List DatabaseEntry} {e : DatabaseEntry} :
    e ∈ entriesAbout file entries ↔ e ∈ entries ∧ e.file = file := by
  simp [entriesAbout]

/-- **Sorting keeps the entries of one file in their order.** -/
theorem entriesAbout_mergeSort (file : String) (entries : List DatabaseEntry) :
    entriesAbout file (entries.mergeSort fileLE) = entriesAbout file entries := by
  have hsorted : (entriesAbout file entries).Pairwise fun a b => a.fileLE b = true := by
    refine List.pairwise_of_forall_mem_list fun a ha b hb => ?_
    have hfile : a.file = b.file :=
      (mem_entriesAbout.1 ha).2.trans (mem_entriesAbout.1 hb).2.symm
    simp [fileLE, Text.le, hfile]
  have hsublist : (entriesAbout file entries).Sublist (entries.mergeSort fileLE) :=
    List.sublist_mergeSort fileLE_trans fileLE_total hsorted List.filter_sublist
  have hfiltered : (entriesAbout file entries).Sublist
      (entriesAbout file (entries.mergeSort fileLE)) := by
    have htwice := hsublist.filter (·.file == file)
    simp only [entriesAbout, List.filter_filter, Bool.and_self] at htwice
    exact htwice
  refine (hfiltered.eq_of_length ?_).symm
  exact ((List.mergeSort_perm entries fileLE).filter _).length_eq.symm

/-- The first entry of a sorted list comes before each of its entries. -/
theorem fileLE_of_mem {a b : DatabaseEntry} {l : List DatabaseEntry}
    (hl : (a :: l).Pairwise fun a b => a.fileLE b = true) (hb : b ∈ a :: l) :
    a.fileLE b = true := by
  obtain rfl | hb := List.mem_cons.1 hb
  · simpa using fileLE_total b b
  · exact (List.pairwise_cons.1 hl).1 b hb

/-- **Sorted lists that agree about each file are the same.** -/
theorem eq_of_entriesAbout_eq {l l' : List DatabaseEntry}
    (hl : l.Pairwise fun a b => a.fileLE b = true) (hl' : l'.Pairwise fun a b => a.fileLE b = true)
    (h : ∀ file, entriesAbout file l = entriesAbout file l') : l = l' := by
  induction l generalizing l' with
  | nil =>
    match l' with
    | [] => rfl
    | b :: l' =>
      have hb := mem_entriesAbout.2 ⟨List.mem_cons_self (a := b) (l := l'), rfl⟩
      rw [← h b.file] at hb
      cases hb
  | cons a l ih =>
    have ha : a ∈ entriesAbout a.file l' :=
      h a.file ▸ mem_entriesAbout.2 ⟨List.mem_cons_self, rfl⟩
    match l' with
    | [] => cases ha
    | b :: l' =>
      have hb : b ∈ entriesAbout b.file (a :: l) :=
        h b.file ▸ mem_entriesAbout.2 ⟨List.mem_cons_self, rfl⟩
      have hfile : a.file = b.file := file_eq_of_fileLE
        (fileLE_of_mem hl (mem_entriesAbout.1 hb).1) (fileLE_of_mem hl' (mem_entriesAbout.1 ha).1)
      have hab : a = b := by
        have hheads := h a.file
        rw [entriesAbout_cons, entriesAbout_cons, if_pos rfl, if_pos hfile.symm] at hheads
        exact (List.cons.inj hheads).1
      subst hab
      refine congrArg (a :: ·) (ih (List.pairwise_cons.1 hl).2 (List.pairwise_cons.1 hl').2 ?_)
      intro file
      have htails := h file
      rw [entriesAbout_cons, entriesAbout_cons] at htails
      split_ifs at htails with heq
      · exact (List.cons.inj htails).2
      · exact htails

/-! ## What is recorded about a file -/

namespace Database

/-- What is recorded about a file, in the order of the last recording. -/
def about (db : Database) (file : String) : List DatabaseEntry := entriesAbout file db.recorded

theorem entriesAbout_entries (db : Database) (file : String) :
    entriesAbout file db.entries = db.about file :=
  entriesAbout_mergeSort file db.recorded

theorem pairwise_fileLE_entries (db : Database) :
    db.entries.Pairwise fun a b => a.fileLE b = true :=
  List.pairwise_mergeSort fileLE_trans fileLE_total _

/-- **A database is listed by what is recorded about each file.** -/
theorem entries_eq_of_about {db db' : Database} (h : ∀ file, db.about file = db'.about file) :
    db.entries = db'.entries := by
  refine eq_of_entriesAbout_eq db.pairwise_fileLE_entries db'.pairwise_fileLE_entries fun file => ?_
  rw [entriesAbout_entries, entriesAbout_entries, h]

/-- **Recording an entry changes what is recorded about its file.** -/
theorem about_record_self (db : Database) (e : DatabaseEntry) : (db.record e).about e.file =
    (db.about e.file).filter (fun old => !old.sameSubject e) ++ [e] := by
  simp only [about, record, entriesAbout, List.filter_append, List.filter_filter]
  congr 1
  · exact List.filter_congr fun old _ => Bool.and_comm _ _
  · simp

/-- What is recorded about other files stays as it is. -/
theorem about_record_of_ne (db : Database) {e : DatabaseEntry} {file : String}
    (h : e.file ≠ file) : (db.record e).about file = db.about file := by
  simp only [about, record, entriesAbout, List.filter_append, List.filter_filter]
  have hnew : [e].filter (·.file == file) = [] := by simp [h]
  rw [hnew, List.append_nil]
  refine List.filter_congr fun old _ => ?_
  by_cases hold : old.file = file
  · have hne : old.file ≠ e.file := fun heq => h (heq ▸ hold)
    simp [DatabaseEntry.sameSubject, hne]
  · simp [hold]

/-! If a database is kept, this says the same about it. -/

theorem map_about_record_self {db db' : Option Database} {e : DatabaseEntry}
    (h : db'.map (·.about e.file) = db.map (·.about e.file)) :
    (db'.map (·.record e)).map (·.about e.file) = (db.map (·.record e)).map (·.about e.file) := by
  cases db with
  | none =>
    cases db' with
    | none => rfl
    | some db' => cases h
  | some db =>
    cases db' with
    | none => cases h
    | some db' =>
      simp only [Option.map_some, Option.some.injEq] at h ⊢
      rw [about_record_self, about_record_self, h]

theorem map_about_record_of_ne (db : Option Database) {e : DatabaseEntry} {file : String}
    (h : e.file ≠ file) :
    (db.map (·.record e)).map (·.about file) = db.map (·.about file) := by
  cases db with
  | none => rfl
  | some db => exact congrArg some (about_record_of_ne db h)

theorem map_entries_eq_of_about {db db' : Option Database}
    (h : ∀ file, db.map (·.about file) = db'.map (·.about file)) :
    db.map (·.entries) = db'.map (·.entries) := by
  cases db with
  | none =>
    cases db' with
    | none => rfl
    | some db' => cases h ""
  | some db =>
    cases db' with
    | none => cases h ""
    | some db' => exact congrArg some (entries_eq_of_about fun file => Option.some.inj (h file))

end Database

end Clinker

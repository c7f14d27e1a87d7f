import Clinker.Proofs.Database.Files
import Clinker.Proofs.History
import Mathlib.Data.Finset.Card

/-!
# The database after any history of recordings

A subject is a source with an output. However often and in whatever order entries are recorded,
the database holds for each subject the entry recorded for it last, and lists the entries by file
and within one file in the order of these last recordings (`ofHistory_entries`).

**The invariant** (`Reflects`). The entries kept are the last ones of their subjects, each subject
once, in the order of their recording. The empty database has it, and recording an entry keeps it
(`Reflects.record`): the entry goes to the end, and what it replaces is what ceases to be last.
Sorting by file is stable, so it loses none of this.
-/

namespace Clinker

/-! ## Subjects -/

namespace DatabaseEntry

/-- What an entry is about: the source and the output. -/
def subject (e : DatabaseEntry) : String × Option String := (e.file, e.output)

theorem sameSubject_iff {a b : DatabaseEntry} : a.sameSubject b = true ↔ a.subject = b.subject := by
  simp [sameSubject, subject]

end DatabaseEntry

open DatabaseEntry

namespace Database

/-- The database after a history of recordings. -/
def ofHistory (history : List DatabaseEntry) : Database := history.foldl record empty

theorem ofHistory_concat (history : List DatabaseEntry) (e : DatabaseEntry) :
    ofHistory (history ++ [e]) = (ofHistory history).record e := by
  simp [ofHistory]

theorem mem_record {db : Database} {e x : DatabaseEntry} :
    x ∈ (db.record e).recorded ↔ x = e ∨ x ∈ db.recorded ∧ x.subject ≠ e.subject := by
  simp only [record, List.mem_append, List.mem_filter, List.mem_singleton, Bool.not_eq_true',
    ← Bool.not_eq_true, sameSubject_iff]
  exact or_comm

/-! ## What is kept -/

/-- The database holds the last entry recorded for each subject, in the order of recording. -/
structure Reflects (db : Database) (history : List DatabaseEntry) : Prop where
  nodup : (db.recorded.map subject).Nodup
  mem_iff (e : DatabaseEntry) : e ∈ db.recorded ↔ LastBy subject history e
  inOrder : db.recorded.Pairwise (LastBefore subject history)

variable {db : Database} {history : List DatabaseEntry}

theorem reflects_empty : empty.Reflects [] where
  nodup := List.nodup_nil
  mem_iff e := by simp [not_lastBy_nil]
  inOrder := List.Pairwise.nil

/-- **Recording an entry makes it the last of its subject.** -/
theorem Reflects.record (h : db.Reflects history) (e : DatabaseEntry) :
    (db.record e).Reflects (history ++ [e]) := by
  have hkept : ∀ old ∈ db.recorded.filter (fun old => !old.sameSubject e),
      old ∈ db.recorded ∧ old.subject ≠ e.subject := by
    intro old hold
    rw [List.mem_filter, Bool.not_eq_true', ← Bool.not_eq_true, sameSubject_iff] at hold
    exact hold
  refine ⟨?_, fun x => ?_, ?_⟩
  · rw [Database.record, List.map_append, List.map_singleton]
    refine List.Nodup.append (h.nodup.sublist (List.filter_sublist.map subject))
      (List.nodup_singleton _) (List.disjoint_singleton.2 fun hmem => ?_)
    obtain ⟨old, hold, hsubject⟩ := List.mem_map.1 hmem
    exact (hkept old hold).2 hsubject
  · rw [mem_record, lastBy_concat, h.mem_iff]
  · rw [Database.record, List.pairwise_append]
    refine ⟨?_, List.pairwise_singleton _ _, fun old hold new hnew => ?_⟩
    · refine (h.inOrder.filter _).imp_of_mem fun {a b} ha hb hab => ?_
      exact hab.concat (hkept a ha).2 (hkept b hb).2
    · rw [List.mem_singleton.1 hnew]
      exact ((h.mem_iff old).1 (hkept old hold).1).before_concat (hkept old hold).2

/-- **After any history the database reflects it.** -/
theorem reflects_ofHistory (history : List DatabaseEntry) : (ofHistory history).Reflects history := by
  induction history using List.reverseRecOn with
  | nil => exact reflects_empty
  | append_singleton history e ih =>
    rw [ofHistory_concat]
    exact ih.record e

/-! ## What is listed -/

theorem entries_perm (db : Database) : db.entries.Perm db.recorded := List.mergeSort_perm _ _

/-- What relates the entries of each file in the order of recording relates them as listed. -/
theorem pairwise_entries_of_pairwise {R : DatabaseEntry → DatabaseEntry → Prop}
    (h : db.recorded.Pairwise R) : db.entries.Pairwise fun a b => a.file = b.file → R a b := by
  rw [List.pairwise_iff_forall_sublist]
  intro a b hsublist hfile
  have habout : (entriesAbout b.file db.entries).Pairwise R := by
    rw [entriesAbout_entries]
    exact h.filter _
  rw [entriesAbout, List.pairwise_filter, List.pairwise_iff_forall_sublist] at habout
  exact habout hsublist (beq_iff_eq.2 hfile) (beq_self_eq_true _)

theorem nodup_entries (history : List DatabaseEntry) :
    ((ofHistory history).entries.map subject).Nodup :=
  ((entries_perm _).map subject).nodup_iff.2 (reflects_ofHistory history).nodup

theorem mem_entries {e : DatabaseEntry} :
    e ∈ (ofHistory history).entries ↔ LastBy subject history e := by
  rw [(entries_perm _).mem_iff, (reflects_ofHistory history).mem_iff]

/-- **Every subject recorded has one entry, the last one recorded for it.** -/
theorem filter_entries {e : DatabaseEntry} (he : e ∈ history) :
    ∃ last, LastBy subject history last ∧
      (ofHistory history).entries.filter (·.sameSubject e) = [last] := by
  obtain ⟨last, hlast, hsubject⟩ := exists_lastBy subject he
  have hnodup : ((ofHistory history).entries.filter (·.sameSubject e)).Nodup :=
    (List.Nodup.of_map subject (nodup_entries history)).filter _
  refine ⟨last, hlast, List.perm_singleton.1 ?_⟩
  rw [List.perm_ext_iff_of_nodup hnodup (List.nodup_singleton last)]
  intro x
  rw [List.mem_filter, mem_entries, sameSubject_iff, List.mem_singleton]
  constructor
  · intro h
    exact h.1.eq hlast (h.2.trans hsubject.symm)
  · intro h
    subst h
    exact ⟨hlast, hsubject⟩

/-- The database counts subjects. -/
theorem size_ofHistory (history : List DatabaseEntry) :
    (ofHistory history).size = (history.map subject).toFinset.card := by
  have hsubjects : (history.map subject).toFinset =
      ((ofHistory history).recorded.map subject).toFinset := by
    ext s
    simp only [List.mem_toFinset, List.mem_map, (reflects_ofHistory history).mem_iff]
    constructor
    · intro h
      obtain ⟨e, he, hs⟩ := h
      obtain ⟨last, hlast, hsubject⟩ := exists_lastBy subject he
      exact ⟨last, hlast, hsubject.trans hs⟩
    · intro h
      obtain ⟨e, he, hs⟩ := h
      exact ⟨e, he.mem, hs⟩
  rw [hsubjects, List.toFinset_card_of_nodup (reflects_ofHistory history).nodup, List.length_map,
    size]

/-- The listing goes by file, and within a file by last recording. -/
theorem pairwise_entries (history : List DatabaseEntry) :
    (ofHistory history).entries.Pairwise fun a b =>
      a.file < b.file ∨ a.file = b.file ∧ LastBefore subject history a b := by
  have hrecorded := pairwise_entries_of_pairwise (reflects_ofHistory history).inOrder
  refine ((pairwise_fileLE_entries _).and hrecorded).imp ?_
  intro a b hab
  by_cases hfile : a.file = b.file
  · exact .inr ⟨hfile, hab.2 hfile⟩
  · refine .inl (String.not_le.1 fun hle => hfile (file_eq_of_fileLE hab.1 ?_))
    simpa [fileLE, Text.le] using hle

/-! ## Other orders -/

theorem mem_entries_of_perm {history' : List DatabaseEntry} (hperm : history'.Perm history)
    (hnodup : (history.map subject).Nodup) (e : DatabaseEntry) :
    e ∈ (ofHistory history').entries ↔ e ∈ (ofHistory history).entries := by
  have hnodup' : (history'.map subject).Nodup := (hperm.map subject).nodup_iff.2 hnodup
  rw [mem_entries, mem_entries, lastBy_iff_mem hnodup', lastBy_iff_mem hnodup, hperm.mem_iff]

/-- **The order of recording is not seen when every file has one entry.** Both lists are sorted by
file and have the same entries. -/
theorem entries_eq_of_perm {history' : List DatabaseEntry} (hperm : history'.Perm history)
    (hnodup : (history.map subject).Nodup) (hfiles : (history.map (·.file)).Nodup) :
    (ofHistory history').entries = (ofHistory history).entries := by
  have hsame : (ofHistory history').entries.Perm (ofHistory history).entries := by
    rw [List.perm_ext_iff_of_nodup (List.Nodup.of_map subject (nodup_entries history'))
      (List.Nodup.of_map subject (nodup_entries history))]
    exact mem_entries_of_perm hperm hnodup
  refine hsame.eq_of_pairwise ?_ (pairwise_fileLE_entries _) (pairwise_fileLE_entries _)
  intro a b ha hb hab hba
  have ha' : a ∈ history := (mem_entries.1 (hsame.mem_iff.1 ha)).mem
  exact List.inj_on_of_nodup_map hfiles ha' (mem_entries.1 hb).mem (file_eq_of_fileLE hab hba)

/-- **The database lists what its history leaves.** No subject has two entries, every subject
recorded has the last entry recorded for it, and there are as many entries as subjects; they are
listed by file and, within a file, in the order of their last recording. If every subject is
recorded once, the order of recording does not decide what is listed, and if every file is, it does
not decide the listing either. -/
theorem ofHistory_entries (history : List DatabaseEntry) :
    ((ofHistory history).entries.map subject).Nodup ∧
    (∀ e, e ∈ (ofHistory history).entries ↔ LastBy subject history e) ∧
    (∀ e ∈ history, ∃ last, LastBy subject history last ∧
      (ofHistory history).entries.filter (·.sameSubject e) = [last]) ∧
    (ofHistory history).size = (history.map subject).toFinset.card ∧
    (ofHistory history).entries.Pairwise (fun a b =>
      a.file < b.file ∨ a.file = b.file ∧ LastBefore subject history a b) ∧
    ∀ history' : List DatabaseEntry, history'.Perm history → (history.map subject).Nodup →
      (∀ e, e ∈ (ofHistory history').entries ↔ e ∈ (ofHistory history).entries) ∧
      ((history.map (·.file)).Nodup →
        (ofHistory history').entries = (ofHistory history).entries) := by
  refine ⟨nodup_entries history, fun e => mem_entries, fun e => filter_entries,
    size_ofHistory history, pairwise_entries history, ?_⟩
  intro history' hperm hnodup
  exact ⟨mem_entries_of_perm hperm hnodup, entries_eq_of_perm hperm hnodup⟩

end Database

end Clinker

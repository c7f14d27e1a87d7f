import Clinker.Dependency.Record
import Clinker.Proofs.Basic
import Clinker.Proofs.Dependency.Exclusion

/-!
# The headers of a record

A record keeps the forms of the headers a compiler named: those that are not empty and that no
excluded directory covers, each once, in the order in which they were first named. The three
facts determine the list, so they say all there is to say about it (`record_headers`).
-/

namespace Clinker.Dependency

/-! ## Recorded headers -/

theorem mem_recordedHeaders {x : Exclusions} {named : List String} {form : String} :
    form ∈ recordedHeaders x named ↔
      (∃ header ∈ named, normalForm header = form) ∧ form ≠ "" ∧ x.excludes form = false := by
  simp [recordedHeaders, and_assoc]

theorem pairwise_recordedHeaders (x : Exclusions) (named : List String) :
    (recordedHeaders x named).Pairwise fun a b =>
      (named.map normalForm).idxOf a < (named.map normalForm).idxOf b := by
  refine ((pairwise_idxOf_eraseDups _).imp_of_mem fun {a b} ha hb h => ?_).filter _
  rw [List.mem_eraseDups, List.mem_filter] at ha hb
  exact idxOf_lt_of_filter (p := (· != "")) ha.2 hb.2 h

theorem nodup_recordedHeaders (x : Exclusions) (named : List String) :
    (recordedHeaders x named).Nodup := by
  refine (pairwise_recordedHeaders x named).imp fun {a b} h => ?_
  rintro rfl
  exact Nat.lt_irrefl _ h

/-- Only the answers of the exclusions matter. -/
theorem recordedHeaders_congr {x y : Exclusions} (h : ∀ form, x.excludes form = y.excludes form)
    (named : List String) : recordedHeaders x named = recordedHeaders y named := by
  simp only [recordedHeaders, h]

/-- **A record keeps exactly the headers that no excluded directory covers**: their forms, without
the empty one, each once and in first-seen order. How the excluded directories are listed does not
matter. -/
theorem record_headers (roots : List Path) (object source : Path) (named : List String) :
    (∀ form, form ∈ (record (.ofRoots roots) object source named).headers ↔
      (∃ header ∈ named, normalForm header = form) ∧ form ≠ "" ∧
        ∀ root ∈ roots, ¬ Covers root form) ∧
    (record (.ofRoots roots) object source named).headers.Nodup ∧
    (record (.ofRoots roots) object source named).headers.Pairwise (fun a b =>
      (named.map normalForm).idxOf a < (named.map normalForm).idxOf b) ∧
    ∀ roots' : List Path, (∀ root, root ∈ roots' ↔ root ∈ roots) →
      record (.ofRoots roots') object source named =
        record (.ofRoots roots) object source named := by
  refine ⟨fun form => ?_, nodup_recordedHeaders _ _, pairwise_recordedHeaders _ _,
    fun roots' h => ?_⟩
  · have hcovers : (Exclusions.ofRoots roots).excludes form = false ↔
        ∀ root ∈ roots, ¬ Covers root form := by
      rw [← Bool.not_eq_true, excludes_ofRoots_iff]
      simp only [not_exists, not_and]
    rw [record, mem_recordedHeaders, hcovers]
  · rw [record, record, recordedHeaders_congr (excludes_ofRoots_congr h)]

/-- A sibling that shares the spelling of an excluded directory is kept. -/
example : recordedHeaders (.ofRoots [⟨"C:\\VS\\"⟩]) ["c:/vs/x", "C:\\VS9\\x", "c:/vs9/X"] =
    ["c:/vs9/x"] := by
  decide +kernel

end Clinker.Dependency

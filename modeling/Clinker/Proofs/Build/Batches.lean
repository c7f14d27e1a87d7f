import Clinker.Proofs.Build.Interleaving

/-!
# Batches are one way to take turns

A build compiles batch after batch, and in each batch job after job. Every job then takes all its
turns at once, which is one of the schedules that there are (`leads_compileBatches`): the jobs of
the batches up to the first one with an error are finished, and the others have not begun.
-/

namespace Clinker.Build

open Compile (Progress finish)
open Dependency (Record)

variable {σ : Type} {s : Session} {runner : ToolRunner σ} {jobs : List CompileJob}
  {t t' t'' : Turns σ jobs} {i : Fin jobs.length} {is : List (Fin jobs.length)}

/-! ## Turns that lead somewhere -/

/-- Some turns lead from one point to another. -/
def Leads (s : Session) (runner : ToolRunner σ) (t t' : Turns σ jobs) : Prop :=
  ∃ schedule : List (Fin jobs.length), schedule.foldl (Turns.turn s runner) t = t'

theorem Leads.refl (t : Turns σ jobs) : Leads s runner t t := ⟨[], rfl⟩

theorem Leads.trans (h : Leads s runner t t') (h' : Leads s runner t' t'') :
    Leads s runner t t'' := by
  obtain ⟨first, rfl⟩ := h
  obtain ⟨second, rfl⟩ := h'
  exact ⟨first ++ second, List.foldl_append⟩

theorem leads_turn (t : Turns σ jobs) (i : Fin jobs.length) :
    Leads s runner t (t.turn s runner i) := ⟨[i], rfl⟩

/-- One job takes all the turns it needs. -/
def Turns.toEnd (s : Session) (runner : ToolRunner σ) (t : Turns σ jobs) (i : Fin jobs.length) :
    Turns σ jobs :=
  let ended := finish s runner (jobs.get i) (t.progress i) t.workshop
  ⟨Function.update t.progress i (.finished ended.1), ended.2⟩

theorem toEnd_turn (t : Turns σ jobs) (i : Fin jobs.length) :
    (t.turn s runner i).toEnd s runner i = t.toEnd s runner i := by
  have hjob : jobs.get i = jobs[i] := rfl
  rw [Turns.toEnd, Turns.toEnd, hjob, Turns.progress_turn_self, Turns.workshop_turn,
    finish_step_eq, Turns.turn, Function.update_idem]

/-- A job comes to its end by taking turns. -/
theorem leads_toEnd (t : Turns σ jobs) (i : Fin jobs.length) :
    Leads s runner t (t.toEnd s runner i) := by
  generalize hp : t.progress i = p
  generalize hw : t.workshop = w
  induction p, w using Compile.finish.induct s runner (jobs.get i) generalizing t with
  | case1 p w result hresult =>
    have hover : t.progress i = .finished result := hp.trans (Compile.eq_finished_of_result? hresult)
    have hend : t.toEnd s runner i = t := by
      rw [Turns.toEnd, hover, Compile.finish_finished, ← hover, Function.update_eq_self]
    rw [hend]
    exact .refl t
  | case2 p w hresult next =>
    rename_i ih
    subst hp hw
    have hrest := ih (t.turn s runner i) (Turns.progress_turn_self t i) rfl
    rw [toEnd_turn] at hrest
    exact (leads_turn t i).trans hrest

/-! ## One batch -/

/-- **The jobs of a batch come to their ends one after the other.** -/
theorem leads_compileBatch (s : Session) (runner : ToolRunner σ) (hnodup : is.Nodup)
    (hstart : ∀ i ∈ is, t.progress i = .start) :
    ∃ t', Leads s runner t t' ∧
      t'.workshop = (compileBatch s runner (is.map jobs.get) t.workshop).2 ∧
      is.map t'.progress =
        (compileBatch s runner (is.map jobs.get) t.workshop).1.map .finished ∧
      ∀ j, j ∉ is → t'.progress j = t.progress j := by
  induction is generalizing t with
  | nil => exact ⟨t, .refl t, rfl, rfl, fun _ _ => rfl⟩
  | cons i is ih =>
    obtain ⟨hnew, hnodup⟩ := List.nodup_cons.1 hnodup
    obtain ⟨hi, hstart⟩ := List.forall_mem_cons.1 hstart
    have hothers : ∀ j, j ≠ i → (t.toEnd s runner i).progress j = t.progress j :=
      fun j hj => Function.update_of_ne hj _ _
    obtain ⟨t', hleads, hworkshop, hresults, hrest⟩ := ih (t := t.toEnd s runner i) hnodup
      fun j hj => (hothers j fun h => hnew (h ▸ hj)).trans (hstart j hj)
    have hworkshop' : (t.toEnd s runner i).workshop =
        (finish s runner (jobs.get i) .start t.workshop).2 := by rw [Turns.toEnd, hi]
    have hresult : t'.progress i =
        .finished (finish s runner (jobs.get i) .start t.workshop).1 := by
      rw [hrest i hnew, Turns.toEnd, hi]
      exact Function.update_self i _ _
    rw [hworkshop'] at hworkshop hresults
    refine ⟨t', (leads_toEnd t i).trans hleads, ?_, ?_, fun j hj => ?_⟩
    · simpa only [List.map_cons, compileBatch, compile_own] using hworkshop
    · simp only [List.map_cons, compileBatch, compile_own, hresults, hresult]
    · rw [hrest j (List.not_mem_of_not_mem_cons hj), hothers j (List.ne_of_not_mem_cons hj)]

/-! ## What becomes of the results -/

theorem collect_eq_ok {α : Type} {results : List (Except BuildError α)} {values : List α}
    (h : collect results = .ok values) : results = values.map .ok := by
  induction results generalizing values with
  | nil =>
    cases h
    rfl
  | cons result results ih =>
    cases result with
    | error e => cases h
    | ok value =>
      rw [collect] at h
      cases hrest : collect results with
      | error e =>
        rw [hrest] at h
        cases h
      | ok rest =>
        rw [hrest] at h
        cases h
        rw [List.map_cons, ih hrest]

theorem collect_eq_error {α : Type} {results : List (Except BuildError α)} {e : BuildError}
    (h : collect results = .error e) : .error e ∈ results := by
  induction results with
  | nil => cases h
  | cons result results ih =>
    cases result with
    | error e' =>
      cases h
      exact List.mem_cons_self
    | ok value =>
      rw [collect] at h
      cases hrest : collect results with
      | ok rest =>
        rw [hrest] at h
        cases h
      | error e' =>
        rw [hrest] at h
        cases h
        exact List.mem_cons_of_mem _ (ih hrest)

/-- No compile of the jobs `is` is going on. Some may not have begun. -/
def Turns.Resting (t : Turns σ jobs) (is : List (Fin jobs.length)) : Prop :=
  ∀ i ∈ is, t.progress i = .start ∨ ∃ result, t.progress i = .finished result

/-- What workers make of the compiles of the jobs `is`: the records of all if every one has
succeeded, or else the error of any one that has failed. When one has failed, those that have not
begun need not begin. -/
inductive Collected (t : Turns σ jobs) (is : List (Fin jobs.length)) :
    Except BuildError (List Record) → Prop
  | records {records : List Record} :
      is.map t.progress = records.map (fun record => .finished (.ok record)) →
      Collected t is (.ok records)
  | error {i : Fin jobs.length} {e : BuildError} :
      t.Resting is → i ∈ is → t.progress i = .finished (.error e) → Collected t is (.error e)

theorem resting_of_map_eq {results : List (Except BuildError Record)}
    (h : is.map t.progress = results.map .finished) : t.Resting is := by
  intro i hi
  have hmem : t.progress i ∈ results.map Progress.finished := h ▸ List.mem_map_of_mem hi
  obtain ⟨result, -, hresult⟩ := List.mem_map.1 hmem
  exact .inr ⟨result, hresult.symm⟩

theorem Collected.resting {result : Except BuildError (List Record)} (h : Collected t is result) :
    t.Resting is := by
  cases h with
  | @records records hrecords =>
    have hresults : is.map t.progress = (records.map Except.ok).map .finished := by
      rw [hrecords, List.map_map]
      rfl
    exact resting_of_map_eq hresults
  | error hresting _ _ => exact hresting

theorem collected_collect {results : List (Except BuildError Record)}
    (h : is.map t.progress = results.map .finished) : Collected t is (collect results) := by
  cases hcollect : collect results with
  | ok records =>
    refine .records ?_
    rw [h, collect_eq_ok hcollect, List.map_map]
    rfl
  | error e =>
    have hmem : Progress.finished (.error e) ∈ is.map t.progress :=
      h ▸ List.mem_map_of_mem (collect_eq_error hcollect)
    obtain ⟨i, hi, hfailed⟩ := List.mem_map.1 hmem
    exact .error (resting_of_map_eq h) hi hfailed

theorem Turns.Resting.append {is' : List (Fin jobs.length)} (h : t.Resting is)
    (h' : t.Resting is') : t.Resting (is ++ is') :=
  fun i hi => (List.mem_append.1 hi).elim (h i) (h' i)

/-- If one batch has succeeded, what becomes of all depends on the others. -/
theorem Collected.append {is' : List (Fin jobs.length)} {records : List Record}
    {rest : Except BuildError (List Record)}
    (hrecords : is.map t.progress = records.map fun record => .finished (.ok record))
    (h : Collected t is' rest) : Collected t (is ++ is') (rest.map (records ++ ·)) := by
  cases h with
  | records hmore => exact .records (by rw [List.map_append, List.map_append, hrecords, hmore])
  | error hresting hi hfailed =>
    exact .error ((Collected.records hrecords).resting.append hresting)
      (List.mem_append_right _ hi) hfailed

/-! ## Batch after batch -/

/-- **Batch after batch is one way to take turns.** -/
theorem leads_compileBatches (s : Session) (runner : ToolRunner σ)
    {iss : List (List (Fin jobs.length))} (hnodup : iss.flatten.Nodup)
    (hstart : ∀ i ∈ iss.flatten, t.progress i = .start) :
    ∃ t', Leads s runner t t' ∧
      t'.workshop =
        (compileBatches s runner (iss.map (·.map jobs.get)) t.workshop).2 ∧
      Collected t' iss.flatten
        (compileBatches s runner (iss.map (·.map jobs.get)) t.workshop).1 ∧
      ∀ j, j ∉ iss.flatten → t'.progress j = t.progress j := by
  induction iss generalizing t with
  | nil => exact ⟨t, .refl t, rfl, .records rfl, fun _ _ => rfl⟩
  | cons is iss ih =>
    rw [List.flatten_cons] at hnodup hstart ⊢
    obtain ⟨hnodup, hnodup', hdisjoint⟩ := List.nodup_append.1 hnodup
    obtain ⟨hstart, hstart'⟩ := List.forall_mem_append.1 hstart
    have hne : ∀ i ∈ is, i ∉ iss.flatten := fun i hi hi' => hdisjoint i hi i hi' rfl
    obtain ⟨t₁, hleads, hworkshop, hresults, hothers⟩ :=
      leads_compileBatch s runner hnodup hstart
    have hstart₁ : ∀ i ∈ iss.flatten, t₁.progress i = .start := fun i hi =>
      (hothers i fun hi' => hne i hi' hi).trans (hstart' i hi)
    have hcollected := collected_collect hresults
    rw [List.map_cons, compileBatches]
    cases hcollect : collect (compileBatch s runner (is.map jobs.get) t.workshop).1 with
    | error e =>
      -- The build stops here: the jobs of the other batches have not begun.
      rw [hcollect] at hcollected
      simp only [hcollect]
      obtain _ | ⟨hresting, hi, hfailed⟩ := hcollected
      refine ⟨t₁, hleads, hworkshop, ?_, fun j hj => hothers j fun h => ?_⟩
      · exact .error (hresting.append fun i hi => .inl (hstart₁ i hi)) (List.mem_append_left _ hi)
          hfailed
      · exact hj (List.mem_append_left _ h)
    | ok records =>
      rw [hcollect] at hcollected
      obtain ⟨hrecords⟩ | _ := hcollected
      obtain ⟨t₂, hleads', hworkshop', hcollected', hothers'⟩ := ih (t := t₁) hnodup' hstart₁
      have hkept : is.map t₂.progress = is.map t₁.progress :=
        List.map_congr_left fun i hi => hothers' i (hne i hi)
      rw [hworkshop] at hworkshop' hcollected'
      simp only [hcollect]
      refine ⟨t₂, hleads.trans hleads', hworkshop', hcollected'.append (hkept.trans hrecords),
        fun j hj => ?_⟩
      rw [hothers' j fun h => hj (List.mem_append_right _ h),
        hothers j fun h => hj (List.mem_append_left _ h)]

/-! ## All batches -/

theorem chunks_map {α β : Type} (f : α → β) (n : Nat) (xs : List α) :
    chunks n (xs.map f) = (chunks n xs).map (·.map f) := by
  induction xs using chunks.induct n with
  | case1 => simp [chunks]
  | case2 x rest ih =>
    rw [List.map_cons, chunks, chunks, ← List.map_drop, ih, List.map_cons, List.map_cons,
      List.map_take]

theorem flatten_chunks {α : Type} (n : Nat) (xs : List α) : (chunks n xs).flatten = xs := by
  induction xs using chunks.induct n with
  | case1 => simp [chunks]
  | case2 x rest ih => rw [chunks, List.flatten_cons, ih, List.cons_append, List.take_append_drop]

/-- Whatever the number of workers, every job is in one batch, in order. -/
theorem batches_eq_map (workers : Option Nat) (jobs : List CompileJob) :
    ∃ iss : List (List (Fin jobs.length)), iss.flatten = List.finRange jobs.length ∧
      batches workers jobs = iss.map (·.map jobs.get) := by
  have hjobs : (List.finRange jobs.length).map jobs.get = jobs :=
    List.map_get_finRange jobs
  have hall : [jobs] = [List.finRange jobs.length].map (·.map jobs.get) := by
    rw [List.map_singleton, hjobs]
  match workers with
  | none => exact ⟨[_], List.flatten_singleton, hall⟩
  | some 0 => exact ⟨[_], List.flatten_singleton, hall⟩
  | some (n + 1) =>
    refine ⟨chunks n (List.finRange jobs.length), flatten_chunks n _, ?_⟩
    rw [← chunks_map, hjobs, batches]

/-- **The batches of a build are one way to take turns.** -/
theorem takeTurns_batches (s : Session) (runner : ToolRunner σ) (workers : Option Nat)
    (jobs : List CompileJob) (w : Workshop σ) : ∃ schedule : List (Fin jobs.length),
      (takeTurns s runner jobs schedule w).workshop =
        (compileBatches s runner (batches workers jobs) w).2 ∧
      Collected (takeTurns s runner jobs schedule w) (List.finRange jobs.length)
        (compileBatches s runner (batches workers jobs) w).1 := by
  obtain ⟨iss, hflatten, hbatches⟩ := batches_eq_map workers jobs
  have hnodup : iss.flatten.Nodup := hflatten ▸ List.nodup_finRange _
  obtain ⟨t, ⟨schedule, rfl⟩, hworkshop, hcollected, -⟩ :=
    leads_compileBatches s runner (t := .start jobs w) hnodup fun _ _ => rfl
  rw [hflatten] at hcollected
  exact ⟨schedule, hbatches ▸ hworkshop, hbatches ▸ hcollected⟩

end Clinker.Build

import Clinker.CommandLine.Quote
import Clinker.Proofs.CommandLine.Scanning
import Clinker.Proofs.Text.Pieces
import Mathlib.Tactic.ByContra

/-!
# What a tool receives of a command line

A list of arguments is written on one line and cut into arguments again. An argument written in
quotes comes back as it is. One written plain comes back as its words, because a tab or a line
end in it separates. So `splitChars_joinChars` says for every list what is received, and
`split_join_eq_iff` follows: the list comes back exactly when every argument survives.

**Invariant.** While a quoted argument is read back, the run of backslashes that the writer holds
back is a part of the argument that the reader has yet to add (`writes_escapeFrom`).
-/

namespace Clinker.CommandLine

/-! ## Arguments in quotes -/

/-- A run of backslashes is held back. -/
theorem writes_backslashes (quoted : Bool) (run n : Nat) :
    (Scan.inside quoted run).Writes (backslashes n) [] (.inside quoted (run + n)) := by
  induction n generalizing run with
  | zero => exact .nil _
  | succ n ih =>
    have hread : (Scan.inside quoted run).read '\\' = .keep [] (.inside quoted (run + 1)) := rfl
    have := Scan.Writes.cons hread (ih (run + 1))
    rwa [List.nil_append, Nat.add_right_comm] at this

/-- **The inside of a quoted argument reads back**, with the run that was held back in front. -/
theorem writes_escapeFrom (arg : List Char) (run : Nat) :
    (Scan.inside true 0).Writes (escapeFrom run arg ++ ['"']) (backslashes run ++ arg)
      .closing := by
  induction arg generalizing run with
  | nil =>
    have hread : (Scan.inside true (0 + run * 2)).read '"' = .keep (backslashes run) .closing := by
      simp [Scan.read, readInside]
    rw [escapeFrom, List.append_nil]
    exact (writes_backslashes true 0 (run * 2)).append (.single hread)
  | cons c arg ih =>
    rw [escapeFrom]
    split_ifs with hb hq
    · obtain rfl : c = '\\' := by simpa using hb
      have hrun : backslashes run ++ '\\' :: arg = backslashes (run + 1) ++ arg := by
        simp [backslashes, List.replicate_succ']
      rw [hrun]
      exact ih (run + 1)
    · obtain rfl : c = '"' := by simpa using hq
      have hread : (Scan.inside true (0 + (run * 2 + 1))).read '"' =
          .keep (backslashes run ++ ['"']) (.inside true 0) := by
        have hhalf : (run * 2 + 1) / 2 = run := by omega
        simp [Scan.read, readInside, hhalf]
      have hrun := (writes_backslashes true 0 (run * 2 + 1)).append (.single hread)
      have := hrun.append (ih 0)
      simpa using this
    · have hread : (Scan.inside true (0 + run)).read c =
          .keep (backslashes run ++ [c]) (.inside true 0) := by
        simp [Scan.read, readInside, hb, hq]
      have := ((writes_backslashes true 0 run).append (.single hread)).append (ih 0)
      simpa using this

/-- An argument in quotes reads back, and its quotes are closed at its end. -/
theorem writes_quoteChars {arg : List Char} (h : isPlain arg = false) :
    Scan.between.Writes (quoteChars arg) arg .closing := by
  have hread : Scan.between.read '"' = .keep [] (.inside true 0) := rfl
  have := Scan.Writes.cons hread (writes_escapeFrom arg 0)
  simpa [quoteChars, h] using this

/-! ## Arguments without quotes -/

/-- The words of a text: what stands between separators. -/
def words (text : List Char) : List (List Char) :=
  (Text.pieces isSeparator text).filter (!·.isEmpty)

/-- A text without quotes is cut at every separator. Between arguments its words are what is
received; within one, the first piece goes on with that argument even if it is empty. -/
theorem scan_of_no_quote {text : List Char} (h : '"' ∉ text) {w : List Char}
    {ws : List (List Char)} (hw : Text.pieces isSeparator text = w :: ws) :
    splitChars text = words text ∧
      ∀ run, scan (.inside false run) text =
        (backslashes run ++ w) :: ws.filter (!·.isEmpty) := by
  induction text generalizing w ws with
  | nil =>
    cases hw
    exact ⟨rfl, fun run => by simp [scan, Scan.rest]⟩
  | cons c text ih =>
    obtain ⟨hc, htext⟩ : '"' ≠ c ∧ '"' ∉ text := by simpa using h
    obtain ⟨v, vs, hv⟩ := Text.exists_pieces_eq_cons isSeparator text
    obtain ⟨ihSplit, ihInside⟩ := ih htext hv
    cases hsep : isSeparator c with
    | true =>
      rw [Text.pieces_cons_of_pos hsep] at hw
      cases hw
      have hwords : words (c :: text) = words text := by
        simp [words, Text.pieces_cons_of_pos hsep]
      refine ⟨by rw [splitChars_cons_separator hsep, ihSplit, hwords], fun run => ?_⟩
      rw [scan_separator rfl hsep, ihSplit, Scan.rest, List.append_nil]
      rfl
    | false =>
      rw [Text.pieces_cons_of_neg hsep hv] at hw
      cases hw
      have hwords : words (c :: text) = (c :: v) :: ws.filter (!·.isEmpty) := by
        simp [words, Text.pieces_cons_of_neg hsep hv]
      rw [hwords]
      by_cases hb : c = '\\'
      · subst hb
        refine ⟨?_, fun run => ?_⟩
        · simp [splitChars, scan, Scan.read, readInside, isSeparator, ihInside]
        · simp [scan, Scan.read, readInside, ihInside, backslashes, List.replicate_succ']
      · have hq : c ≠ '"' := fun e => hc e.symm
        refine ⟨?_, fun run => ?_⟩
        · simp [splitChars, scan, Scan.read, readInside, hsep, hb, hq, ihInside]
        · simp [scan, Scan.read, readInside, hsep, hb, hq, ihInside]

theorem splitChars_of_no_quote {text : List Char} (h : '"' ∉ text) :
    splitChars text = words text := by
  obtain ⟨w, ws, hw⟩ := Text.exists_pieces_eq_cons isSeparator text
  exact (scan_of_no_quote h hw).1

/-! ## Whole lines -/

/-- What is received of an argument: its words if it is written plain, otherwise itself. -/
def received (arg : List Char) : List (List Char) := if isPlain arg then words arg else [arg]

theorem isPlain_iff {arg : List Char} :
    isPlain arg = true ↔ arg ≠ [] ∧ ' ' ∉ arg ∧ '"' ∉ arg := by
  simp only [isPlain, Bool.and_eq_true, List.all_eq_true, bne_iff_ne, Bool.not_eq_true',
    List.isEmpty_eq_false_iff, forall_and, ne_eq, List.forall_mem_ne']

theorem splitChars_quoteChars (arg : List Char) : splitChars (quoteChars arg) = received arg := by
  cases h : isPlain arg with
  | true =>
    rw [quoteChars_of_isPlain h, splitChars_of_no_quote (isPlain_iff.1 h).2.2, received, if_pos h]
  | false =>
    have := (writes_quoteChars h).scan_append nofun []
    rw [List.append_nil] at this
    rw [splitChars, this, received, if_neg (by simp [h])]
    simp [Scan.rest]

/-- A written argument leaves no quotes open. -/
theorem isQuoted_after_quoteChars (arg : List Char) :
    (Scan.between.after (quoteChars arg)).isQuoted = false := by
  cases h : isPlain arg with
  | true =>
    rw [quoteChars_of_isPlain h]
    exact Scan.isQuoted_after (isPlain_iff.1 h).2.2 rfl
  | false => rw [(writes_quoteChars h).after_eq]; rfl

/-- A line of written arguments leaves no quotes open. -/
theorem isQuoted_after_joinChars (args : List (List Char)) :
    (Scan.between.after (joinChars args)).isQuoted = false := by
  induction args with
  | nil => rfl
  | cons arg args ih =>
    cases args with
    | nil => exact isQuoted_after_quoteChars arg
    | cons arg' args =>
      rw [joinChars_cons_cons, Scan.after_append, Scan.after_cons,
        Scan.next_separator (isQuoted_after_quoteChars arg) rfl]
      exact ih

/-- A line of written arguments is cut on its own when a separator follows it. -/
theorem splitChars_joinChars_append {c : Char} (h : isSeparator c = true)
    (args : List (List Char)) (line : List Char) :
    splitChars (joinChars args ++ c :: line) = splitChars (joinChars args) ++ splitChars line :=
  scan_append_separator h line _ _ (isQuoted_after_joinChars args)

/-- **What is received of a list of arguments.** -/
theorem splitChars_joinChars (args : List (List Char)) :
    splitChars (joinChars args) = args.flatMap received := by
  induction args with
  | nil => rfl
  | cons arg args ih =>
    cases args with
    | nil => rw [joinChars_singleton, splitChars_quoteChars, List.flatMap_singleton]
    | cons arg' args =>
      rw [joinChars_cons_cons, List.flatMap_cons, ← ih, ← splitChars_quoteChars]
      exact scan_append_separator rfl _ _ _ (isQuoted_after_quoteChars arg)

/-! ## Arguments that survive -/

/-- An argument that is received as it is: a tab or a line end in it is protected by quotes,
which are written only because of a space or a quote. -/
def Survives (arg : String) : Prop :=
  (∃ c ∈ arg.toList, c = '\t' ∨ c = '\r' ∨ c = '\n') → ∃ c ∈ arg.toList, c = ' ' ∨ c = '"'

instance (arg : String) : Decidable (Survives arg) :=
  decidable_of_iff
    ((arg.toList.any fun c => c == '\t' || c == '\r' || c == '\n') = true →
      (arg.toList.any fun c => c == ' ' || c == '"') = true)
    (by simp [Survives, or_assoc])

/-- An argument survives unless it is written plain and holds a separator. -/
theorem survives_iff {arg : String} :
    Survives arg ↔ (isPlain arg.toList = true → ∀ c ∈ arg.toList, isSeparator c = false) := by
  constructor
  · intro h hp c hc
    obtain ⟨-, hspace, hquote⟩ := isPlain_iff.1 hp
    by_contra hsep
    rw [Bool.not_eq_false, isSeparator_iff] at hsep
    rcases hsep with rfl | hcontrol
    · exact hspace hc
    · obtain ⟨d, hd, rfl | rfl⟩ := h ⟨c, hc, hcontrol⟩
      · exact hspace hd
      · exact hquote hd
  · rintro h ⟨c, hc, hcontrol⟩
    by_contra hnone
    have hplain : isPlain arg.toList = true := isPlain_iff.2
      ⟨List.ne_nil_of_mem hc, fun hm => hnone ⟨_, hm, .inl rfl⟩, fun hm => hnone ⟨_, hm, .inr rfl⟩⟩
    have hsep : isSeparator c = true := isSeparator_iff.2 (.inr hcontrol)
    simp [h hplain c hc] at hsep

theorem received_of_survives {arg : String} (h : Survives arg) :
    received arg.toList = [arg.toList] := by
  unfold received
  split_ifs with hp
  · have hne : arg.toList ≠ [] := (isPlain_iff.1 hp).1
    simp [words, Text.pieces_of_forall_not (survives_iff.1 h hp), hne]
  · rfl

/-- What is received survives, whatever was sent. -/
theorem survives_of_mem_received {arg : List Char} {r : String} (h : r.toList ∈ received arg) :
    Survives r := by
  unfold received at h
  split_ifs at h with hp
  · exact survives_iff.2 fun _ c hc =>
      (Text.mem_of_mem_pieces _ (List.mem_filter.1 h).1 c hc).2
  · rw [List.mem_singleton] at h
    rw [← h] at hp
    exact survives_iff.2 fun hp' => absurd hp' hp

theorem split_join (args : List String) :
    split (join args) = ((args.map String.toList).flatMap received).map String.ofList := by
  rw [split, toList_join, splitChars_joinChars]

theorem split_join_of_survives {args : List String} (h : ∀ arg ∈ args, Survives arg) :
    split (join args) = args := by
  rw [split_join]
  induction args with
  | nil => rfl
  | cons arg args ih =>
    rw [List.forall_mem_cons] at h
    simp only [List.map_cons, List.flatMap_cons, received_of_survives h.1, List.singleton_append,
      String.ofList_toList, ih h.2]

/-- **A list of arguments comes back exactly when each of them survives**: when none holds a tab
or a line end without holding a space or a quote as well. -/
theorem split_join_eq_iff (args : List String) :
    split (join args) = args ↔ ∀ arg ∈ args, Survives arg := by
  refine ⟨fun h arg harg => ?_, split_join_of_survives⟩
  rw [← h, split_join, List.mem_map] at harg
  obtain ⟨r, hr, rfl⟩ := harg
  obtain ⟨sent, -, hmem⟩ := List.mem_flatMap.1 hr
  exact survives_of_mem_received (by rwa [String.toList_ofList])

end Clinker.CommandLine

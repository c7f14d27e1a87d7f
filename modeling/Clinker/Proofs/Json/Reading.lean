import Clinker.Proofs.Json.Tokens

/-!
# Reading JSON texts

A text is read as a value exactly if it spells that value (`ofText?_eq_some_iff`), so a text spells
one value at most (`SpelledBy.eq`).

Values, items of an array and members of an object are read by three functions that call each other,
each call at a smaller depth. Both halves are therefore one statement about all three, proved by
induction on the depth. Every spelling is read that is no longer than the depth (`Reads`), since each
call passes a character at least, and the reader starts at a depth that covers its text. Only
spellings are read at any depth (`ReadsOnly`).
-/

namespace Clinker.Json

variable {depth : Nat} {rest : List Char}

/-! ## How spellings begin -/

theorem head_of_number {t : List Char} (h : Number t) :
    ∃ c cs, t = c :: cs ∧ (c = '-' ∨ c.isDigit = true) := by
  obtain ⟨hsign, hwhole, -, -⟩ := h
  obtain ⟨d, ds, rfl⟩ := List.exists_cons_of_ne_nil hwhole.1.1
  simp only [List.mem_cons, List.not_mem_nil, or_false] at hsign
  obtain rfl | rfl := hsign
  · exact ⟨d, _, rfl, .inr (hwhole.1.2 d List.mem_cons_self)⟩
  · exact ⟨'-', _, rfl, .inl rfl⟩

theorem ne_of_isDigit {c d : Char} (hc : c = '-' ∨ c.isDigit = true) (hd : d.isDigit = false)
    (hne : d ≠ '-') : c ≠ d := by
  rintro rfl
  obtain rfl | hc := hc
  · exact hne rfl
  · rw [hd] at hc
    cases hc

/-- A value begins neither with white space nor with a closing bracket. -/
theorem head_of_spells {v : Json} {t : List Char} (h : Spells v t) :
    ∃ c cs, t = c :: cs ∧ isBlank c = false ∧ c ≠ ']' := by
  cases h with
  | number hs =>
    obtain ⟨c, cs, hcs, hc⟩ := head_of_number hs
    refine ⟨c, cs, hcs, ?_, ne_of_isDigit hc (by decide) (by decide)⟩
    simp only [isBlank, Bool.or_eq_false_iff, beq_eq_false_iff_ne]
    exact ⟨⟨⟨ne_of_isDigit hc (by decide) (by decide), ne_of_isDigit hc (by decide) (by decide)⟩,
      ne_of_isDigit hc (by decide) (by decide)⟩, ne_of_isDigit hc (by decide) (by decide)⟩
  | string hs => cases hs <;> exact ⟨_, _, rfl, by decide, by decide⟩
  | _ => exact ⟨_, _, rfl, by decide, by decide⟩

/-- White space before a value, its beginning, and what follows. -/
theorem skipBlank_item {v : Json} {t : List Char} (h : SpellsItem v t) (rest : List Char) :
    ∃ u w, Spells v u ∧ Blanks w ∧ u.length ≤ t.length ∧
      skipBlank (t ++ rest) = u ++ (w ++ rest) := by
  obtain ⟨hw, hv, hw'⟩ := h
  next w u w' =>
  obtain ⟨c, cs, rfl, hc, -⟩ := head_of_spells hv
  refine ⟨_, w', hv, hw', by simp only [List.length_append]; omega, ?_⟩
  rw [List.append_assoc, skipBlank_append hw, List.append_assoc, List.cons_append,
    skipBlank_cons hc]

theorem ends_blanks_append {w : List Char} (hw : Blanks w) (hrest : Ends rest) :
    Ends (w ++ rest) := by
  cases w with
  | nil => exact hrest
  | cons c cs =>
    rintro d ⟨⟩
    have hc := hw c List.mem_cons_self
    simp only [List.mem_cons, List.not_mem_nil, or_false] at hc
    obtain rfl | rfl | rfl | rfl := hc <;> decide

theorem skipBlank_items_ne {vs : List Json} {t : List Char} (h : SpellsItems vs t)
    (rest more : List Char) : skipBlank (t ++ rest) ≠ ']' :: more := by
  have hitem : ∀ {v : Json} {u : List Char}, SpellsItem v u → ∀ rest : List Char,
      skipBlank (u ++ rest) ≠ ']' :: more := by
    intro v u hu rest hskip
    obtain ⟨x, w, hx, -, -, hx'⟩ := skipBlank_item hu rest
    obtain ⟨c, cs, rfl, -, hc⟩ := head_of_spells hx
    rw [hx', List.cons_append, List.cons.injEq] at hskip
    exact hc hskip.1
  cases h with
  | last hv => rw [List.append_assoc]; exact hitem hv _
  | cons hv => rw [List.append_assoc]; exact hitem hv _

theorem skipBlank_member {name : Option String} {v : Json} {t : List Char}
    (h : SpellsMember (name, v) t) (rest : List Char) :
    ∃ u, skipBlank (t ++ rest) = '"' :: u ∧ ∃ after t', string? u = some (name, after) ∧
      skipBlank after = ':' :: (t' ++ rest) ∧ SpellsItem v t' ∧ t'.length < t.length := by
  obtain ⟨hw, hname, hw', hv⟩ := h
  next w n w' t' =>
  obtain ⟨u, rfl, hread⟩ := string?_append hname
  refine ⟨u ++ (w' ++ ':' :: (t' ++ rest)), ?_, _, t', hread _, ?_, hv, ?_⟩
  · rw [List.append_assoc, skipBlank_append hw, List.cons_append, List.cons_append,
      skipBlank_cons (by decide)]
    simp
  · rw [skipBlank_append hw', skipBlank_cons (by decide)]
  · simp only [List.length_append, List.length_cons]
    omega

theorem skipBlank_members_ne {ms : List (Option String × Json)} {t : List Char}
    (h : SpellsMembers ms t) (rest more : List Char) : skipBlank (t ++ rest) ≠ '\x7d' :: more := by
  have hmember : ∀ {m : Option String × Json} {u : List Char}, SpellsMember m u →
      ∀ rest : List Char, skipBlank (u ++ rest) ≠ '\x7d' :: more := by
    rintro ⟨name, v⟩ u hu rest hskip
    obtain ⟨x, hx, -⟩ := skipBlank_member hu rest
    rw [hx, List.cons.injEq] at hskip
    exact absurd hskip.1 (by decide)
  cases h with
  | last hm => rw [List.append_assoc]; exact hmember hm _
  | cons hm => rw [List.append_assoc]; exact hmember hm _

/-! ## Which reader goes on -/

theorem items?_skipBlank (depth : Nat) (cs : List Char) :
    items? depth (skipBlank cs) = items? depth cs := by
  cases depth with
  | zero => simp [items?]
  | succ depth => rw [items?, items?, skipBlank_skipBlank]

theorem members?_skipBlank (depth : Nat) (cs : List Char) :
    members? depth (skipBlank cs) = members? depth cs := by
  cases depth with
  | zero => simp [members?]
  | succ depth => rw [members?, members?, skipBlank_skipBlank]

/-- An array that is not closed at once has items. -/
theorem value?_array {cs : List Char} (h : ∀ more, skipBlank cs ≠ ']' :: more) :
    value? (depth + 1) ('[' :: cs) =
      (items? depth cs).map fun (items, after) => (.array items, after) := by
  rw [value?]
  split
  · next more heq => exact absurd heq (h more)
  · rw [items?_skipBlank]

/-- An object that is not closed at once has members. -/
theorem value?_object {cs : List Char} (h : ∀ more, skipBlank cs ≠ '\x7d' :: more) :
    value? (depth + 1) ('\x7b' :: cs) =
      (members? depth cs).map fun (members, after) => (.object members, after) := by
  rw [value?]
  split
  · next more heq => exact absurd heq (h more)
  · rw [members?_skipBlank]

/-- A sign or a digit begins a number. -/
theorem value?_number {c : Char} (hc : c = '-' ∨ c.isDigit = true) (cs : List Char) :
    value? (depth + 1) (c :: cs) =
      (number? (c :: cs)).map fun (spelling, after) => (.number spelling, after) := by
  rw [value?]
  all_goals
    rintro more ⟨⟩
    revert hc
    decide

/-! ## Every spelling is read -/

/-- Nothing that stands after a value goes on with a number, and it is not skipped. -/
theorem follows {c : Char} (hc : c ∈ [',', ']', '\x7d']) (cs : List Char) :
    Ends (c :: cs) ∧ skipBlank (c :: cs) = c :: cs := by
  simp only [List.mem_cons, List.not_mem_nil, or_false] at hc
  refine ⟨?_, skipBlank_cons ?_ cs⟩
  · rintro d ⟨⟩
    obtain rfl | rfl | rfl := hc <;> decide
  · obtain rfl | rfl | rfl := hc <;> decide

/-- Reading at some depth finds what a spelling no longer than the depth spells. -/
structure Reads (depth : Nat) : Prop where
  value {v : Json} {t rest : List Char} :
    Spells v t → t.length ≤ depth → Ends rest → value? depth (t ++ rest) = some (v, rest)
  items {vs : List Json} {t rest : List Char} :
    SpellsItems vs t → t.length ≤ depth → items? depth (t ++ rest) = some (vs, rest)
  members {ms : List (Option String × Json)} {t rest : List Char} :
    SpellsMembers ms t → t.length ≤ depth → members? depth (t ++ rest) = some (ms, rest)

namespace Reads

theorem item (h : Reads depth) {v : Json} {t : List Char} (hv : SpellsItem v t)
    (hlen : t.length ≤ depth) (hrest : Ends rest) :
    ∃ after, value? depth (skipBlank (t ++ rest)) = some (v, after) ∧
      skipBlank after = skipBlank rest := by
  obtain ⟨u, w, hu, hw, hle, hskip⟩ := skipBlank_item hv rest
  refine ⟨w ++ rest, ?_, skipBlank_append hw rest⟩
  rw [hskip]
  exact h.value hu (by omega) (ends_blanks_append hw hrest)

theorem items_succ (h : Reads depth) {vs : List Json} {t rest : List Char}
    (ht : SpellsItems vs t) (hlen : t.length ≤ depth + 1) :
    items? (depth + 1) (t ++ rest) = some (vs, rest) := by
  cases ht with
  | last hv =>
    rw [List.length_append, List.length_singleton] at hlen
    obtain ⟨hends, hskip⟩ := follows (by decide : ']' ∈ _) rest
    obtain ⟨after, hread, hafter⟩ := h.item hv (by omega) hends
    rw [List.append_assoc, List.singleton_append, items?, hread]
    simp only [Option.bind_eq_bind, Option.bind_some, hafter, hskip]
    rfl
  | cons hv hvs =>
    rw [List.length_append, List.length_cons] at hlen
    next t ts =>
    obtain ⟨hends, hskip⟩ := follows (by decide : ',' ∈ _) (ts ++ rest)
    obtain ⟨after, hread, hafter⟩ := h.item hv (by omega) hends
    rw [List.append_assoc, List.cons_append, items?, hread]
    simp only [Option.bind_eq_bind, Option.bind_some, hafter, hskip, h.items hvs (by omega)]
    rfl

theorem members_succ (h : Reads depth) {ms : List (Option String × Json)} {t rest : List Char}
    (ht : SpellsMembers ms t) (hlen : t.length ≤ depth + 1) :
    members? (depth + 1) (t ++ rest) = some (ms, rest) := by
  cases ht with
  | @last m t hm =>
    obtain ⟨name, v⟩ := m
    rw [List.length_append, List.length_singleton] at hlen
    obtain ⟨hends, hskip⟩ := follows (by decide : '\x7d' ∈ _) rest
    obtain ⟨u, hquote, after, t', hname, hcolon, hv, hlt⟩ := skipBlank_member hm ('\x7d' :: rest)
    obtain ⟨after', hread, hafter⟩ := h.item hv (by omega) hends
    rw [List.append_assoc, List.singleton_append, members?, hquote]
    simp only [Option.bind_eq_bind, Option.bind_some, hname, hcolon, hread, hafter, hskip]
    rfl
  | @cons m ms t ts hm hms =>
    obtain ⟨name, v⟩ := m
    rw [List.length_append, List.length_cons] at hlen
    obtain ⟨hends, hskip⟩ := follows (by decide : ',' ∈ _) (ts ++ rest)
    obtain ⟨u, hquote, after, t', hname, hcolon, hv, hlt⟩ :=
      skipBlank_member hm (',' :: (ts ++ rest))
    obtain ⟨after', hread, hafter⟩ := h.item hv (by omega) hends
    rw [List.append_assoc, List.cons_append, members?, hquote]
    simp only [Option.bind_eq_bind, Option.bind_some, hname, hcolon, hread, hafter, hskip,
      h.members hms (by omega)]
    rfl

theorem value_succ (h : Reads depth) {v : Json} {t rest : List Char} (hv : Spells v t)
    (hlen : t.length ≤ depth + 1) (hrest : Ends rest) :
    value? (depth + 1) (t ++ rest) = some (v, rest) := by
  cases hv with
  | null => simp [value?, expect?]
  | true => simp [value?, expect?]
  | false => simp [value?, expect?]
  | number hs =>
    have hread := number?_append hs hrest
    obtain ⟨c, cs, hcs, hc⟩ := head_of_number hs
    rw [String.ofList_toList] at hread
    rw [hcs, List.cons_append] at hread ⊢
    rw [value?_number hc, hread, Option.map_some]
  | string hs =>
    obtain ⟨u, rfl, hread⟩ := string?_append hs
    rw [List.cons_append, value?, hread, Option.map_some]
  | emptyArray hw =>
    simp only [List.cons_append, value?, List.append_assoc, skipBlank_append hw, List.nil_append,
      skipBlank_cons (c := ']') (by decide)]
  | array hitems =>
    rw [List.cons_append, value?_array (skipBlank_items_ne hitems rest),
      h.items hitems (by simpa using hlen), Option.map_some]
  | emptyObject hw =>
    simp only [List.cons_append, value?, List.append_assoc, skipBlank_append hw, List.nil_append,
      skipBlank_cons (c := '\x7d') (by decide)]
  | object hmembers =>
    rw [List.cons_append, value?_object (skipBlank_members_ne hmembers rest),
      h.members hmembers (by simpa using hlen), Option.map_some]

end Reads

theorem reads_zero : Reads 0 where
  value hv hlen _ := by
    obtain ⟨c, cs, rfl, -⟩ := head_of_spells hv
    simp at hlen
  items ht hlen := by cases ht <;> simp at hlen
  members ht hlen := by cases ht <;> simp at hlen

/-- **A depth no smaller than its length suffices for a spelling.** -/
theorem reads (depth : Nat) : Reads depth := by
  induction depth with
  | zero => exact reads_zero
  | succ depth ih => exact ⟨ih.value_succ, ih.items_succ, ih.members_succ⟩

/-! ## Only spellings are read -/

theorem SpellsItem.blanks_append {v : Json} {w t : List Char} (hw : Blanks w)
    (h : SpellsItem v t) : SpellsItem v (w ++ t) := by
  obtain ⟨hw', hv, hw''⟩ := h
  have hblanks : Blanks (w ++ _) := List.forall_mem_append.2 ⟨hw, hw'⟩
  rw [← List.append_assoc]
  exact .mk hblanks hv hw''

theorem SpellsItems.blanks_append {vs : List Json} {w t : List Char} (hw : Blanks w)
    (h : SpellsItems vs t) : SpellsItems vs (w ++ t) := by
  cases h with
  | last hv => rw [← List.append_assoc]; exact .last (hv.blanks_append hw)
  | cons hv hvs => rw [← List.append_assoc]; exact .cons (hv.blanks_append hw) hvs

theorem expect?_eq_some {es cs : List Char} (h : expect? es cs = some rest) : cs = es ++ rest := by
  fun_induction expect? es cs with
  | case1 => cases h; rfl
  | case2 => cases h
  | case3 e es c cs heq ih => rw [eq_of_beq heq, ih h]; rfl
  | case4 => cases h

/-- What is read at some depth is spelled by what was read. -/
structure ReadsOnly (depth : Nat) : Prop where
  value {v : Json} {cs rest : List Char} :
    value? depth cs = some (v, rest) → ∃ t, Spells v t ∧ cs = t ++ rest
  items {vs : List Json} {cs rest : List Char} :
    items? depth cs = some (vs, rest) → ∃ t, SpellsItems vs t ∧ cs = t ++ rest
  members {ms : List (Option String × Json)} {cs rest : List Char} :
    members? depth cs = some (ms, rest) → ∃ t, SpellsMembers ms t ∧ cs = t ++ rest

namespace ReadsOnly

variable {cs : List Char}

/-- What is read between white space is an item. -/
theorem item (h : ReadsOnly depth) {v : Json} {after : List Char}
    (hread : value? depth (skipBlank cs) = some (v, after)) :
    ∃ t, SpellsItem v t ∧ cs = t ++ skipBlank after := by
  obtain ⟨w, hw, hcs⟩ := exists_skipBlank cs
  obtain ⟨w', hw', hafter⟩ := exists_skipBlank after
  obtain ⟨t, ht, hskip⟩ := h.value hread
  refine ⟨w ++ (t ++ w'), .mk hw ht hw', ?_⟩
  calc cs = w ++ (t ++ after) := by rw [← hskip, ← hcs]
    _ = w ++ (t ++ w') ++ skipBlank after := by
      rw [List.append_assoc, List.append_assoc, ← hafter]

/-- A name, a colon and an item are a member. -/
theorem member (h : ReadsOnly depth) {name : Option String} {v : Json}
    {more after back after' : List Char} (hquote : skipBlank cs = '"' :: more)
    (hname : string? more = some (name, after)) (hcolon : skipBlank after = ':' :: back)
    (hread : value? depth (skipBlank back) = some (v, after')) :
    ∃ t, SpellsMember (name, v) t ∧ cs = t ++ skipBlank after' := by
  obtain ⟨w, hw, hcs⟩ := exists_skipBlank cs
  obtain ⟨n, hn, rfl⟩ := spellsString_of_string? hname
  obtain ⟨w', hw', hafter⟩ := exists_skipBlank after
  obtain ⟨t, ht, rfl⟩ := h.item hread
  refine ⟨_, .mk hw hn hw' ht, ?_⟩
  calc cs = w ++ '"' :: (n ++ after) := by rw [← hquote, ← hcs]
    _ = w ++ '"' :: (n ++ (w' ++ ':' :: (t ++ skipBlank after'))) := by rw [← hcolon, ← hafter]
    _ = w ++ ('"' :: n ++ (w' ++ ':' :: t)) ++ skipBlank after' := by simp

theorem items_succ (h : ReadsOnly depth) {vs : List Json}
    (hread : items? (depth + 1) cs = some (vs, rest)) : ∃ t, SpellsItems vs t ∧ cs = t ++ rest := by
  rw [items?] at hread
  simp only [Option.bind_eq_bind, Option.bind_eq_some_iff] at hread
  obtain ⟨⟨v, after⟩, hv, hread⟩ := hread
  obtain ⟨t, ht, rfl⟩ := h.item hv
  split at hread
  · next more heq =>
    simp only [Option.bind_eq_some_iff] at hread
    obtain ⟨⟨items, rest'⟩, hitems, hread⟩ := hread
    cases hread
    obtain ⟨ts, hts, rfl⟩ := h.items hitems
    exact ⟨_, .cons ht hts, by simp [heq]⟩
  · next more heq =>
    cases hread
    exact ⟨_, .last ht, by simp [heq]⟩
  · cases hread

theorem members_succ (h : ReadsOnly depth) {ms : List (Option String × Json)}
    (hread : members? (depth + 1) cs = some (ms, rest)) :
    ∃ t, SpellsMembers ms t ∧ cs = t ++ rest := by
  rw [members?] at hread
  split at hread
  · next more hquote =>
    simp only [Option.bind_eq_bind, Option.bind_eq_some_iff] at hread
    obtain ⟨⟨name, after⟩, hname, hread⟩ := hread
    split at hread
    · next back hcolon =>
      simp only [Option.bind_eq_some_iff] at hread
      obtain ⟨⟨v, after'⟩, hv, hread⟩ := hread
      obtain ⟨t, ht, rfl⟩ := h.member hquote hname hcolon hv
      split at hread
      · next more' heq =>
        simp only [Option.bind_eq_some_iff] at hread
        obtain ⟨⟨members, rest'⟩, hmembers, hread⟩ := hread
        cases hread
        obtain ⟨ts, hts, rfl⟩ := h.members hmembers
        exact ⟨_, .cons ht hts, by simp [heq]⟩
      · next more' heq =>
        cases hread
        exact ⟨_, .last ht, by simp [heq]⟩
      · cases hread
    · cases hread
  · cases hread

theorem array (h : ReadsOnly depth) {v : Json}
    (hread : value? (depth + 1) ('[' :: cs) = some (v, rest)) :
    ∃ t, Spells v t ∧ '[' :: cs = t ++ rest := by
  obtain ⟨w, hw, hcs⟩ := exists_skipBlank cs
  rw [value?] at hread
  split at hread
  · next more heq =>
    cases hread
    exact ⟨_, .emptyArray hw, by rw [hcs, heq]; simp⟩
  · simp only [Option.map_eq_some_iff] at hread
    obtain ⟨⟨items, after⟩, hitems, hread⟩ := hread
    cases hread
    rw [items?_skipBlank] at hitems
    obtain ⟨t, ht, rfl⟩ := h.items hitems
    exact ⟨_, .array ht, rfl⟩

theorem object (h : ReadsOnly depth) {v : Json}
    (hread : value? (depth + 1) ('\x7b' :: cs) = some (v, rest)) :
    ∃ t, Spells v t ∧ '\x7b' :: cs = t ++ rest := by
  obtain ⟨w, hw, hcs⟩ := exists_skipBlank cs
  rw [value?] at hread
  split at hread
  · next more heq =>
    cases hread
    exact ⟨_, .emptyObject hw, by rw [hcs, heq]; simp⟩
  · simp only [Option.map_eq_some_iff] at hread
    obtain ⟨⟨members, after⟩, hmembers, hread⟩ := hread
    cases hread
    rw [members?_skipBlank] at hmembers
    obtain ⟨t, ht, rfl⟩ := h.members hmembers
    exact ⟨_, .object ht, rfl⟩

theorem value_succ (h : ReadsOnly depth) {v : Json}
    (hread : value? (depth + 1) cs = some (v, rest)) : ∃ t, Spells v t ∧ cs = t ++ rest := by
  have hvalue := hread
  unfold value? at hread
  split at hread
  · simp only [Option.map_eq_some_iff] at hread
    obtain ⟨⟨s, after⟩, hs, hread⟩ := hread
    cases hread
    obtain ⟨t, ht, rfl⟩ := spellsString_of_string? hs
    exact ⟨_, .string ht, rfl⟩
  · exact h.array hvalue
  · exact h.object hvalue
  · obtain ⟨after, hword, hread⟩ := Option.map_eq_some_iff.1 hread
    cases hread
    exact ⟨_, .true, congrArg ('t' :: ·) (expect?_eq_some hword)⟩
  · obtain ⟨after, hword, hread⟩ := Option.map_eq_some_iff.1 hread
    cases hread
    exact ⟨_, .false, congrArg ('f' :: ·) (expect?_eq_some hword)⟩
  · obtain ⟨after, hword, hread⟩ := Option.map_eq_some_iff.1 hread
    cases hread
    exact ⟨_, .null, congrArg ('n' :: ·) (expect?_eq_some hword)⟩
  · simp only [Option.map_eq_some_iff] at hread
    obtain ⟨⟨s, after⟩, hs, hread⟩ := hread
    cases hread
    obtain ⟨hnumber, hcs⟩ := number_of_number? hs
    exact ⟨_, .number hnumber, hcs⟩

end ReadsOnly

theorem readsOnly (depth : Nat) : ReadsOnly depth := by
  induction depth with
  | zero =>
    constructor
    · intro v cs rest h
      simp [value?] at h
    · intro vs cs rest h
      simp [items?] at h
    · intro ms cs rest h
      simp [members?] at h
  | succ depth ih => exact ⟨ih.value_succ, ih.items_succ, ih.members_succ⟩

/-! ## JSON texts -/

/-- **Every JSON text of a value is read as the value.** The length of the text is depth enough. -/
theorem ofText?_of_spelledBy {v : Json} {text : String} (h : SpelledBy v text) :
    ofText? text = some v := by
  have hends : Ends [] := by rintro c ⟨⟩
  obtain ⟨after, hread, hafter⟩ :=
    (reads (text.toList.length + 1)).item h (Nat.le_succ _) hends
  rw [List.append_nil] at hread
  simp only [ofText?, hread, Option.bind_eq_bind, Option.bind_some, hafter]
  rfl

/-- **Reading finds the value that a text spells, and no other text is read.** -/
theorem ofText?_eq_some_iff {v : Json} {text : String} :
    ofText? text = some v ↔ SpelledBy v text := by
  refine ⟨fun h => ?_, ofText?_of_spelledBy⟩
  simp only [ofText?, Option.bind_eq_bind, Option.bind_eq_some_iff] at h
  obtain ⟨⟨v', after⟩, hread, h⟩ := h
  split_ifs at h with hend
  cases h
  obtain ⟨t, ht, htext⟩ := (readsOnly _).item hread
  rw [SpelledBy, htext, eq_of_beq hend, List.append_nil]
  exact ht

/-- A text spells one value at most. -/
theorem SpelledBy.eq {v v' : Json} {text : String} (h : SpelledBy v text)
    (h' : SpelledBy v' text) : v = v' :=
  Option.some.inj ((ofText?_of_spelledBy h).symm.trans (ofText?_of_spelledBy h'))

end Clinker.Json

import Clinker.Path
import Clinker.Proofs.Text.Pieces
import Mathlib.Data.List.TakeWhile
import Mathlib.Tactic.SplitIfs

/-!
# Paths in a folder

A path that is joined from a folder and a name lies in the folder: its steps are those of the
folder and the name (`steps_join`), so are its components (`components_join`), and its parent is
the same whatever the name is (`parent?_join`). A parent that is written has some of the steps of
its child, and not all of them (`steps_of_parent?`).
-/

namespace Clinker.Path

theorem eq_of_toList_eq {p q : Path} (h : p.text.toList = q.text.toList) : p = q := by
  cases p
  cases q
  exact congrArg Path.mk (String.toList_injective h)

/-! ## Steps -/

/-- The steps of a sequence of characters. -/
def stepsOf (cs : List Char) : List String := (⟨String.ofList cs⟩ : Path).steps

theorem steps_eq_stepsOf (p : Path) : p.steps = stepsOf p.text.toList := by
  rw [stepsOf, String.ofList_toList]

/-- **A separator comes between the steps on its two sides.** -/
theorem stepsOf_append (a b : List Char) :
    stepsOf (a ++ '/' :: b) = stepsOf a ++ stepsOf b := by
  simp only [stepsOf, steps, Text.piecesAt, String.toList_ofList]
  rw [Text.pieces_append_cons, List.map_append, List.filter_append]

@[simp] theorem stepsOf_nil : stepsOf [] = [] := rfl

@[simp] theorem stepsOf_cons_separator (cs : List Char) : stepsOf ('/' :: cs) = stepsOf cs :=
  stepsOf_append [] cs

theorem stepsOf_of_not_mem {cs : List Char} (h : '/' ∉ cs) (hne : cs ≠ []) :
    stepsOf cs = [String.ofList cs] := by
  have hempty : String.ofList cs ≠ "" := by
    intro heq
    exact hne (String.ofList_eq_empty_iff.1 heq)
  simp [stepsOf, steps, Text.piecesAt, String.toList_ofList, Text.pieces_of_not_mem h, hempty]

/-- Only a text of separators has no steps. -/
theorem stepsOf_ne_nil {cs : List Char} {c : Char} (hc : c ∈ cs) (h : c ≠ '/') :
    stepsOf cs ≠ [] := by
  by_cases hmem : '/' ∈ cs
  · obtain ⟨a, b, hcs, -⟩ := List.eq_append_cons_of_mem hmem
    rw [hcs] at hc ⊢
    rw [stepsOf_append]
    obtain ha | hb := List.mem_append.1 hc
    · exact List.append_ne_nil_of_left_ne_nil (stepsOf_ne_nil ha h) _
    · have hb := (List.mem_cons.1 hb).resolve_left h
      exact List.append_ne_nil_of_right_ne_nil _ (stepsOf_ne_nil hb h)
  · rw [stepsOf_of_not_mem hmem (List.ne_nil_of_mem hc)]
    exact List.cons_ne_nil _ _
termination_by cs.length
decreasing_by all_goals simp only [hcs, List.length_append, List.length_cons]; omega

/-- A path starts where a path starts that it continues. -/
theorem isAbsolute_of_append {p q : Path} {rest : List Char} (hq : q.isEmpty = false)
    (htext : p.text.toList = q.text.toList ++ rest) : p.isAbsolute = q.isAbsolute := by
  have hne : q.text.toList ≠ [] := by simpa [isEmpty] using hq
  obtain ⟨c, cs, hcs⟩ := List.exists_cons_of_ne_nil hne
  rw [isAbsolute, isAbsolute, htext, hcs]
  rfl

/-- The front of a text, and its body, have the steps of the text. -/
theorem stepsOf_front_append_body (cs : List Char) :
    stepsOf cs = stepsOf (front cs) ++ stepsOf (body cs) := by
  unfold body front
  split
  · show stepsOf _ = stepsOf ['/'] ++ stepsOf _
    rw [stepsOf_cons_separator, stepsOf_cons_separator]
    rfl
  · exact (List.append_nil _).symm
  · show stepsOf (['.'] ++ '/' :: _) = stepsOf ['.'] ++ stepsOf ('/' :: _)
    rw [stepsOf_append, stepsOf_cons_separator]
  · rfl

/-! ## Names -/

/-- A text that is one step of a path and neither `.` nor `..`. -/
structure IsName (name : String) : Prop where
  ne_empty : name ≠ ""
  no_separator : '/' ∉ name.toList
  ne_here : name ≠ "."
  ne_up : name ≠ ".."

namespace IsName

variable {name : String}

theorem toList_ne_nil (h : IsName name) : name.toList ≠ [] :=
  fun heq => h.ne_empty (String.toList_eq_nil_iff.1 heq)

theorem toList_ne_here (h : IsName name) : name.toList ≠ ['.'] :=
  fun heq => h.ne_here (String.toList_injective heq)

/-- A name is one step. -/
theorem stepsOf_eq (h : IsName name) : stepsOf name.toList = [name] := by
  rw [stepsOf_of_not_mem h.no_separator h.toList_ne_nil, String.ofList_toList]

/-- A text of more than two characters without a separator is a name. -/
theorem of_length (hsep : '/' ∉ name.toList) (hlong : 2 < name.length) : IsName name := by
  have hne : ∀ other : String, other.length ≤ 2 → name ≠ other := by
    rintro other hother rfl
    omega
  exact ⟨hne _ (by decide), hsep, hne _ (by decide), hne _ (by decide)⟩

/-- A name with a longer ending is a name. -/
theorem append (h : IsName name) {suffix : String} (hsep : '/' ∉ suffix.toList)
    (hlong : 2 ≤ suffix.length) : IsName (name ++ suffix) := by
  have hpos : 0 < name.length := by
    rw [Nat.pos_iff_ne_zero]
    exact fun h0 => h.ne_empty (String.length_eq_zero_iff.1 h0)
  refine of_length ?_ (by rw [String.length_append]; omega)
  rw [String.toList_append, List.mem_append]
  rintro (hmem | hmem)
  · exact h.no_separator hmem
  · exact hsep hmem

/-- A name is no absolute path. -/
theorem isAbsolute_eq_false (h : IsName name) : (⟨name⟩ : Path).isAbsolute = false := by
  have hmem := h.no_separator
  rw [isAbsolute, beq_eq_false_iff_ne]
  exact fun hhead => hmem (List.mem_of_head? hhead)

/-- A name read backwards has nothing idle in front. -/
theorem dropIdle_eq (h : IsName name) (rest : List Char) :
    dropIdle (name.toList.reverse ++ rest) = name.toList.reverse ++ rest := by
  have hsep : ∀ c ∈ name.toList.reverse, c ≠ '/' := by
    intro c hc
    exact ne_of_mem_of_not_mem (List.mem_reverse.1 hc) h.no_separator
  have hne : name.toList.reverse ≠ [] := by simpa using h.ne_empty
  have hhere : name.toList.reverse ≠ ['.'] := fun heq =>
    h.toList_ne_here (by simpa using congrArg List.reverse heq)
  match hcs : name.toList.reverse with
  | [] => exact absurd hcs hne
  | [c] =>
    rw [hcs] at hsep hhere
    rw [List.cons_append, dropIdle] <;> simp_all
  | c :: d :: cs =>
    rw [hcs] at hsep
    rw [List.cons_append, List.cons_append, dropIdle] <;> simp_all

end IsName

/-! ## Stems -/

theorem mem_of_mem_cutExtension {cs : List Char} {c : Char} (h : c ∈ (cutExtension cs).1) :
    c ∈ cs := by
  simp only [cutExtension] at h
  split at h
  · exact h
  · next before hdrop =>
    split_ifs at h
    · exact h
    · have hmem : c ∈ cs.reverse.dropWhile (· != '.') := by
        rw [hdrop]
        exact List.mem_cons_of_mem _ (List.mem_reverse.1 h)
      exact List.mem_reverse.1 ((List.dropWhile_suffix _).subset hmem)

/-- A stem has no separators. -/
theorem not_mem_stem? {p : Path} {stem : String} (h : p.stem? = some stem) :
    '/' ∉ stem.toList := by
  intro hmem
  simp only [stem?, fileName?, Option.map_eq_some_iff] at h
  obtain ⟨fileName, hname, rfl⟩ := h
  split_ifs at hname
  cases hname
  rw [String.toList_ofList, String.toList_ofList] at hmem
  have hpiece := List.mem_reverse.1 (mem_of_mem_cutExtension hmem)
  simpa using List.mem_takeWhile_imp hpiece

/-! ## Joining a name -/

/-- What a folder writes in front of a name. -/
def opening (dir : Path) : List Char :=
  if dir.isEmpty || dir.endsInSeparator then dir.text.toList else dir.text.toList ++ ['/']

variable {dir : Path} {name : String}

theorem toList_join_of_relative {p : Path} (h : p.isAbsolute = false) :
    (dir.join p).text.toList = dir.opening ++ p.text.toList := by
  rw [join, h, if_neg Bool.false_ne_true, opening]
  split
  · exact String.toList_append
  · simp [String.toList_append]

theorem toList_join (h : IsName name) :
    (dir.join ⟨name⟩).text.toList = dir.opening ++ name.toList :=
  toList_join_of_relative h.isAbsolute_eq_false

/-- A folder writes nothing, or its own steps and a separator. -/
theorem opening_cases (dir : Path) :
    (dir.text = "" ∧ dir.opening = []) ∨
    ∃ cs, dir.opening = cs ++ ['/'] ∧ stepsOf cs = dir.steps ∧
      dir.opening.head? = dir.text.toList.head? := by
  by_cases hempty : dir.text = ""
  · exact .inl ⟨hempty, by simp [opening, isEmpty, hempty]⟩
  · refine .inr ?_
    by_cases hend : dir.endsInSeparator = true
    · obtain ⟨cs, hcs⟩ := List.getLast?_eq_some_iff.1 (eq_of_beq hend)
      have hopening : dir.opening = dir.text.toList := by simp [opening, hend]
      refine ⟨cs, hopening.trans hcs, ?_, by rw [hopening]⟩
      rw [steps_eq_stepsOf, hcs, stepsOf_append, stepsOf_nil, List.append_nil]
    · have hopening : dir.opening = dir.text.toList ++ ['/'] := by
        simp [opening, isEmpty, hempty, hend]
      refine ⟨dir.text.toList, hopening, (steps_eq_stepsOf dir).symm, ?_⟩
      have hne : dir.text.toList ≠ [] := fun heq => hempty (String.toList_eq_nil_iff.1 heq)
      obtain ⟨c, cs, hcs⟩ := List.exists_cons_of_ne_nil hne
      rw [hopening, hcs]
      rfl

theorem opening_of_endsInSeparator (h : dir.endsInSeparator = true) :
    dir.opening = dir.text.toList := by
  rw [opening, h, Bool.or_true, if_pos rfl]

theorem opening_of_not_endsInSeparator (hne : dir.isEmpty = false)
    (h : dir.endsInSeparator = false) : dir.opening = dir.text.toList ++ ['/'] := by
  rw [opening, hne, h, Bool.or_self, if_neg Bool.false_ne_true]

/-- What a folder writes ends in a separator, if it writes anything. -/
theorem exists_opening (h : dir.isEmpty = false) :
    ∃ cs, dir.opening = cs ++ ['/'] ∧ stepsOf cs = dir.steps := by
  obtain ⟨hempty, -⟩ | ⟨cs, hopening, hcs, -⟩ := opening_cases dir
  · rw [isEmpty, hempty] at h
    cases h
  · exact ⟨cs, hopening, hcs⟩

/-- **The steps of a joined path** are those of the folder and the name. -/
theorem steps_join (h : IsName name) : (dir.join ⟨name⟩).steps = dir.steps ++ [name] := by
  rw [steps_eq_stepsOf, toList_join h]
  obtain ⟨hempty, hopening⟩ | ⟨cs, hopening, hcs, -⟩ := opening_cases dir
  · rw [hopening, List.nil_append, h.stepsOf_eq, steps_eq_stepsOf, hempty]
    rfl
  · rw [hopening, List.append_assoc, List.singleton_append, stepsOf_append, hcs, h.stepsOf_eq]

theorem isAbsolute_join (h : IsName name) : (dir.join ⟨name⟩).isAbsolute = dir.isAbsolute := by
  rw [isAbsolute, toList_join h]
  obtain ⟨hempty, hopening⟩ | ⟨cs, hopening, -, hhead⟩ := opening_cases dir
  · have hname := h.isAbsolute_eq_false
    rw [isAbsolute] at hname
    rw [hopening, List.nil_append, hname, isAbsolute, hempty]
    rfl
  · have hne : dir.opening ≠ [] := by simp [hopening]
    obtain ⟨c, rest, hrest⟩ := List.exists_cons_of_ne_nil hne
    rw [isAbsolute, ← hhead, hrest]
    rfl

theorem isEmpty_join (h : IsName name) : (dir.join ⟨name⟩).isEmpty = false := by
  have hne : (dir.join ⟨name⟩).text.toList ≠ [] := by
    rw [toList_join h]
    exact List.append_ne_nil_of_right_ne_nil _ h.toList_ne_nil
  rw [isEmpty, Bool.eq_false_iff]
  intro hempty
  exact hne (String.toList_eq_nil_iff.2 (String.isEmpty_iff.1 hempty))

theorem endsInSeparator_join (h : IsName name) : (dir.join ⟨name⟩).endsInSeparator = false := by
  obtain ⟨cs, c, hcs⟩ := (List.eq_nil_or_concat name.toList).resolve_left h.toList_ne_nil
  have hc : c ≠ '/' := by
    rintro rfl
    exact h.no_separator (by simp [hcs])
  rw [endsInSeparator, toList_join h, hcs, List.concat_eq_append, ← List.append_assoc,
    List.getLast?_concat]
  simpa using hc

/-- More text at the end of a joined path is more text at the end of its name. -/
theorem suffixed_join (h : IsName name) {suffix : String} (h' : IsName (name ++ suffix)) :
    (dir.join ⟨name⟩).suffixed suffix = dir.join ⟨name ++ suffix⟩ := by
  apply eq_of_toList_eq
  rw [text_suffixed, String.toList_append, toList_join h, toList_join h', String.toList_append,
    List.append_assoc]

/-! ## Parents -/

/-- What paths in a folder have as their parent. -/
def folder (dir : Path) : Path :=
  ⟨String.ofList (front dir.opening ++ (dropIdle (body dir.opening).reverse).reverse)⟩

/-- What follows a separator does not change how a text starts. -/
theorem front_append (cs rest : List Char) : front (cs ++ '/' :: rest) = front (cs ++ ['/']) := by
  match cs with
  | [] => rfl
  | [c] =>
    unfold front
    split <;> split <;> simp_all
  | c :: d :: cs =>
    unfold front
    split <;> split <;> simp_all

theorem front_append_name (h : IsName name) :
    front (dir.opening ++ name.toList) = front dir.opening := by
  obtain ⟨-, hopening⟩ | ⟨cs, hopening, -, -⟩ := opening_cases dir
  · have hsep := h.no_separator
    have hhere := h.toList_ne_here
    rw [hopening, List.nil_append]
    unfold front
    split <;> simp_all
  · rw [hopening, List.append_assoc, List.singleton_append, front_append]

/-- A folder's writing ends in a separator, if anything but a front is written. -/
theorem body_opening (dir : Path) :
    body dir.opening = [] ∨ ∃ cs, body dir.opening = cs ++ ['/'] := by
  obtain ⟨-, hopening⟩ | ⟨cs, hopening, -, -⟩ := opening_cases dir
  · exact .inl (by rw [hopening]; rfl)
  · have hsplit := front_append_body dir.opening
    obtain hbody | ⟨before, c, hbody⟩ := List.eq_nil_or_concat (body dir.opening)
    · exact .inl hbody
    · rw [List.concat_eq_append] at hbody
      rw [hbody, hopening, ← List.append_assoc] at hsplit
      exact .inr ⟨before, by rw [hbody, (List.append_singleton_inj.1 hsplit).2]⟩

theorem body_append_name (h : IsName name) :
    body (dir.opening ++ name.toList) = body dir.opening ++ name.toList := by
  have hsplit : front dir.opening ++ body (dir.opening ++ name.toList) =
      front dir.opening ++ (body dir.opening ++ name.toList) := by
    calc front dir.opening ++ body (dir.opening ++ name.toList)
        = dir.opening ++ name.toList := by
          rw [← front_append_name h, front_append_body]
      _ = front dir.opening ++ (body dir.opening ++ name.toList) := by
          rw [← List.append_assoc, front_append_body]
  exact List.append_cancel_left hsplit

/-- The last piece of a joined path is the name, and what precedes it is the folder's. -/
theorem lastPiece_join (h : IsName name) : lastPiece (dir.opening ++ name.toList) =
    (name.toList.reverse, (body dir.opening).reverse) := by
  have hname : ∀ c ∈ name.toList.reverse, (c != '/') = true := by
    intro c hc
    rw [bne_iff_ne]
    exact ne_of_mem_of_not_mem (List.mem_reverse.1 hc) h.no_separator
  have hbody : (body dir.opening).reverse.takeWhile (· != '/') = [] ∧
      (body dir.opening).reverse.dropWhile (· != '/') = (body dir.opening).reverse := by
    obtain hbody | ⟨cs, hbody⟩ := body_opening dir <;> simp [hbody]
  rw [lastPiece, body_append_name h, List.reverse_append, h.dropIdle_eq,
    List.takeWhile_append_of_pos hname, List.dropWhile_append_of_pos hname, hbody.1, hbody.2,
    List.append_nil]

/-- **The parent of a joined path** does not depend on the name. -/
theorem parent?_join (h : IsName name) : (dir.join ⟨name⟩).parent? = some dir.folder := by
  have hne : name.toList.reverse.isEmpty = false := by
    simpa using h.ne_empty
  rw [parent?, toList_join h]
  simp only [lastPiece_join h, hne, front_append_name h, folder]
  rfl

/-- What is idle at the end of a text is cut off at a separator. -/
theorem dropIdle_cases (cs : List Char) :
    dropIdle cs = [] ∨ dropIdle cs = cs ∨ ∃ idle, cs = idle ++ '/' :: dropIdle cs := by
  fun_induction dropIdle cs with
  | case1 r ih =>
    obtain h | h | ⟨idle, h⟩ := ih
    · exact .inl h
    · exact .inr (.inr ⟨[], by rw [h]; rfl⟩)
    · exact .inr (.inr ⟨'/' :: idle, congrArg ('/' :: ·) h⟩)
  | case2 => exact .inl rfl
  | case3 r ih =>
    obtain h | h | ⟨idle, h⟩ := ih
    · exact .inl h
    · exact .inr (.inr ⟨['.'], by rw [h]; rfl⟩)
    · exact .inr (.inr ⟨'.' :: '/' :: idle, congrArg ('.' :: '/' :: ·) h⟩)
  | case4 => exact .inr (.inl rfl)

theorem dropIdle_suffix (cs : List Char) : dropIdle cs <:+ cs := by
  obtain h | h | ⟨idle, h⟩ := dropIdle_cases cs
  · rw [h]
    exact List.nil_suffix
  · exact ⟨[], h⟩
  · refine ⟨idle ++ ['/'], ?_⟩
    rw [List.append_assoc, List.singleton_append, ← h]

/-- A body is what precedes its last piece, the piece, and something idle. -/
theorem body_eq_lastPiece (cs : List Char) : ∃ tail,
    body cs = (lastPiece cs).2.reverse ++ ((lastPiece cs).1.reverse ++ tail) := by
  obtain ⟨idle, hidle⟩ := dropIdle_suffix (body cs).reverse
  refine ⟨idle.reverse, ?_⟩
  rw [← List.append_assoc, ← List.reverse_append, ← List.reverse_append, lastPiece,
    List.takeWhile_append_dropWhile, hidle, List.reverse_reverse]

/-- What precedes the last piece ends in a separator, and so does what is idle in it. -/
theorem dropIdle_lastPiece (cs : List Char) : dropIdle (lastPiece cs).2 = [] ∨
    ∃ idle, (lastPiece cs).2 = idle ++ '/' :: dropIdle (lastPiece cs).2 := by
  have hhead := List.head?_dropWhile_not (· != '/') (dropIdle (body cs).reverse)
  rw [lastPiece]
  cases h : (dropIdle (body cs).reverse).dropWhile (· != '/') with
  | nil => exact .inl rfl
  | cons c before =>
    have hc : c = '/' := by simpa [h] using hhead
    subst hc
    show dropIdle before = [] ∨ ∃ idle, '/' :: before = idle ++ '/' :: dropIdle before
    obtain hidle | hidle | ⟨idle, hidle⟩ := dropIdle_cases before
    · exact .inl hidle
    · exact .inr ⟨[], by rw [hidle]; rfl⟩
    · exact .inr ⟨'/' :: idle, congrArg ('/' :: ·) hidle⟩

/-- **A parent that is written has some of the steps, and not all.** -/
theorem steps_of_parent? {p q : Path} (h : p.parent? = some q) (hq : q.isEmpty = false) :
    ∃ rest, p.text.toList = q.text.toList ++ rest ∧ p.steps = q.steps ++ stepsOf rest ∧
      stepsOf rest ≠ [] := by
  simp only [parent?] at h
  split_ifs at h with hpiece hfront
  · cases h
    cases hq
  · obtain ⟨c, hc⟩ := List.exists_mem_of_ne_nil _ fun heq => hpiece (List.isEmpty_iff.2 heq)
    have hsep : c ≠ '/' := by simpa using List.mem_takeWhile_imp hc
    obtain ⟨tail, htail⟩ := body_eq_lastPiece p.text.toList
    have htext : q.text.toList = front p.text.toList ++
        (dropIdle (lastPiece p.text.toList).2).reverse := by
      rw [← Option.some.inj h, String.toList_ofList]
    rw [steps_eq_stepsOf, steps_eq_stepsOf, htext]
    obtain hidle | ⟨idle, hidle⟩ := dropIdle_lastPiece p.text.toList
    · rw [hidle, List.reverse_nil, List.append_nil]
      refine ⟨body p.text.toList, (front_append_body _).symm, stepsOf_front_append_body _, ?_⟩
      exact stepsOf_ne_nil (by rw [htail]; simp [hc]) hsep
    · have habove := congrArg List.reverse hidle
      rw [List.reverse_append, List.reverse_cons, List.append_assoc, List.singleton_append]
        at habove
      have hsplit := (front_append_body p.text.toList).symm
      rw [htail, habove, List.append_assoc, List.cons_append, ← List.append_assoc] at hsplit
      refine ⟨_, hsplit, ?_, stepsOf_ne_nil (by simp [hc]) hsep⟩
      rw [stepsOf_cons_separator]
      exact (congrArg stepsOf hsplit).trans (stepsOf_append _ _)

/-! ## The last name -/

/-- A text is what stands up to its last separator, and a rest. -/
theorem exists_lastName (cs : List Char) : ∃ above last, cs = above ++ last ∧ '/' ∉ last ∧
    (above = [] ∨ ∃ before, above = before ++ ['/']) := by
  by_cases hmem : '/' ∈ cs
  · obtain ⟨last, above, hcs, hlast⟩ := List.eq_append_cons_of_mem (List.mem_reverse.2 hmem)
    refine ⟨above.reverse ++ ['/'], last.reverse, ?_, ?_, .inr ⟨_, rfl⟩⟩
    · have hreverse := congrArg List.reverse hcs
      simpa using hreverse
    · simpa using hlast
  · exact ⟨[], cs, rfl, hmem, .inl rfl⟩

theorem stepsOf_above {above : List Char} (h : above = [] ∨ ∃ before, above = before ++ ['/'])
    (last : List Char) : stepsOf (above ++ last) = stepsOf above ++ stepsOf last := by
  obtain rfl | ⟨before, rfl⟩ := h
  · rfl
  · rw [List.append_assoc, List.singleton_append, stepsOf_append, stepsOf_append, stepsOf_nil,
      List.append_nil]

/-! ## Components -/

/-- The components that the steps of a body stand for. -/
def componentsOf (cs : List Char) : List Component :=
  ((stepsOf cs).filter (· != ".")).map componentOf

/-- What the front of a path stands for. -/
def frontComponents : List Char → List Component
  | ['/'] => [.root]
  | ['.'] => [.here]
  | _ => []

/-- **The components of a path** are those of its front and of its body. -/
theorem components_eq (p : Path) : p.components =
    frontComponents (front p.text.toList) ++ componentsOf (body p.text.toList) := by
  have hrest : ∀ cs : List Char, ((Text.piecesAt '/' (String.ofList cs)).filter
      fun s => s != "" && s != ".").map componentOf = componentsOf cs := by
    intro cs
    simp only [componentsOf, stepsOf, steps, List.filter_filter, Bool.and_comm]
  simp only [components, hrest]
  rfl

/-- Only an absolute path starts with the root. -/
theorem front_cases (p : Path) :
    front p.text.toList = ['/'] ∧ p.isAbsolute = true ∨
    (front p.text.toList = ['.'] ∨ front p.text.toList = []) ∧ p.isAbsolute = false := by
  rw [isAbsolute]
  unfold front
  split
  · next hcs => exact .inl ⟨rfl, by rw [hcs]; rfl⟩
  · next hcs => exact .inr ⟨.inl rfl, by rw [hcs]; rfl⟩
  · next hcs => exact .inr ⟨.inl rfl, by rw [hcs]; rfl⟩
  · next hroot _ _ =>
    refine .inr ⟨.inr rfl, ?_⟩
    cases hcs : p.text.toList with
    | nil => rfl
    | cons c cs => simpa using fun hc : c = '/' => hroot cs (hc ▸ hcs)

/-- A path that starts as another one, and goes further, has more components. -/
theorem components_append {p q : Path} {more : List Component}
    (hfront : front q.text.toList = front p.text.toList)
    (hbody : componentsOf (body q.text.toList) = componentsOf (body p.text.toList) ++ more) :
    q.components = p.components ++ more := by
  rw [components_eq, components_eq, hfront, hbody, List.append_assoc]

/-- A separator at the end does not change how a path starts. -/
theorem front_append_separator {cs : List Char} (h : cs ≠ []) : front (cs ++ ['/']) = front cs := by
  match cs with
  | [c] =>
    by_cases hroot : c = '/'
    · rw [hroot]
      rfl
    · by_cases hhere : c = '.'
      · rw [hhere]
        rfl
      · simp [front, hroot, hhere]
  | c :: d :: cs =>
    unfold front
    split <;> split <;> simp_all

/-- A folder's writing starts as the folder does, and goes as far. -/
theorem components_opening (dir : Path) : front dir.opening = front dir.text.toList ∧
    componentsOf (body dir.opening) = componentsOf (body dir.text.toList) := by
  unfold opening
  split
  · exact ⟨rfl, rfl⟩
  · next hwritten =>
    have hne : dir.text.toList ≠ [] := by
      intro heq
      simp [isEmpty, String.toList_eq_nil_iff.1 heq] at hwritten
    have hfront := front_append_separator hne
    have hsplit : front dir.text.toList ++ body (dir.text.toList ++ ['/']) =
        front dir.text.toList ++ (body dir.text.toList ++ ['/']) := by
      rw [← List.append_assoc, front_append_body, ← hfront, front_append_body]
    refine ⟨hfront, ?_⟩
    rw [List.append_cancel_left hsplit, componentsOf, stepsOf_append, stepsOf_nil, List.append_nil,
      componentsOf]

/-- **The components of a joined path** are those of the folder and the name. -/
theorem components_join (h : IsName name) :
    (dir.join ⟨name⟩).components = dir.components ++ [.name name] := by
  obtain ⟨hfront, hbody⟩ := components_opening dir
  have hname : componentsOf name.toList = [.name name] := by
    simp [componentsOf, h.stepsOf_eq, h.ne_here, componentOf, h.ne_up]
  apply components_append
  · rw [toList_join h, front_append_name h, hfront]
  · rw [toList_join h, body_append_name h, ← hbody, ← hname, componentsOf,
      stepsOf_above (body_opening dir), List.filter_append, List.map_append]
    rfl

/-- **Names in one folder are different paths.** -/
theorem same_join_iff {other : String} (h : IsName name) (hother : IsName other) :
    (dir.join ⟨name⟩).same (dir.join ⟨other⟩) = true ↔ name = other := by
  rw [same, beq_iff_eq, components_join h, components_join hother, List.append_right_inj]
  simp

/-! ## Lineage -/

theorem lineage_of_isEmpty {p : Path} (h : p.isEmpty = true) : p.lineage = [] := by
  rw [lineage, if_pos h]

theorem lineage_of_noParent {p : Path} (hp : p.isEmpty = false) (h : p.parent? = none) :
    p.lineage = [p] := by
  rw [lineage, hp, if_neg Bool.false_ne_true]
  split
  · rfl
  · next q hq => simp [h] at hq

theorem lineage_of_parent {p q : Path} (hp : p.isEmpty = false) (h : p.parent? = some q) :
    p.lineage = p :: q.lineage := by
  rw [lineage, hp, if_neg Bool.false_ne_true]
  split
  · next hnone => simp [h] at hnone
  · next q' hq' =>
    rw [h] at hq'
    cases hq'
    rfl

/-- A lineage begins with the path itself. -/
theorem exists_lineage {p : Path} (h : p.isEmpty = false) : ∃ above, p.lineage = p :: above := by
  cases hparent : p.parent? with
  | none => exact ⟨[], lineage_of_noParent h hparent⟩
  | some q => exact ⟨_, lineage_of_parent h hparent⟩

/-- A parent that is written starts where its child starts, with some of its steps. -/
theorem prefix_of_parent? {p q : Path} (h : p.parent? = some q) (hq : q.isEmpty = false) :
    q.steps <+: p.steps ∧ q.isAbsolute = p.isAbsolute := by
  obtain ⟨rest, htext, hsteps, -⟩ := steps_of_parent? h hq
  exact ⟨⟨_, hsteps.symm⟩, (isAbsolute_of_append hq htext).symm⟩

/-- **Paths of a lineage** start where its first one starts, and go less far. -/
theorem prefix_of_mem_lineage {p d : Path} (h : d ∈ p.lineage) :
    d.steps <+: p.steps ∧ d.isAbsolute = p.isAbsolute := by
  induction p using Path.lineage.induct with
  | case1 p hempty =>
    rw [lineage_of_isEmpty hempty] at h
    exact absurd h List.not_mem_nil
  | case2 p hempty htop =>
    rw [lineage_of_noParent (Bool.eq_false_iff.2 hempty) htop, List.mem_singleton] at h
    rw [h]
    exact ⟨List.prefix_rfl, rfl⟩
  | case3 p hempty q hparent ih =>
    rw [lineage_of_parent (Bool.eq_false_iff.2 hempty) hparent] at h
    obtain rfl | h := List.mem_cons.1 h
    · exact ⟨List.prefix_rfl, rfl⟩
    · cases hq : q.isEmpty with
      | true =>
        rw [lineage_of_isEmpty hq] at h
        exact absurd h List.not_mem_nil
      | false =>
        obtain ⟨hsteps, habsolute⟩ := prefix_of_parent? hparent hq
        exact ⟨(ih h).1.trans hsteps, (ih h).2.trans habsolute⟩

end Clinker.Path

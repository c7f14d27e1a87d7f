import Clinker.Json.Printer
import Clinker.Proofs.Json.Reading

/-!
# Written JSON is JSON

Whatever is written is spelled by the grammar (`spelledBy_render`), as long as the value has a
spelling at all: its strings are texts and its numbers are spelled as numbers. So a reader gets
the value back (`ofText?_render`). The layout only puts white space between tokens, and in strings
every character is spelled in one of the ways the grammar allows.
-/

namespace Clinker.Json

/-- The value has a spelling: every string in it is a text and every number is spelled as one. -/
inductive Writable : Json → Prop
  | null : Writable .null
  | bool (b : Bool) : Writable (.bool b)
  | number {s : String} : Number s.toList → Writable (.number s)
  | string (s : String) : Writable (.string (some s))
  | array {items : List Json} : (∀ item ∈ items, Writable item) → Writable (.array items)
  | object {members : List (Option String × Json)} :
      (∀ m ∈ members, m.1.isSome) → (∀ m ∈ members, Writable m.2) → Writable (.object members)

/-! ## Strings -/

theorem hexDigit_hexDigit {n : Nat} (h : n < 16) : HexDigit n (hexDigit n) := by
  have hall : ∀ n < 16, "0123456789abcdef".toList[n]? = some (hexDigit n) := by decide
  exact .inl (hall n h)

/-- **A character is written as one of its spellings.** -/
theorem spellsCode_escaped (c : Char) : SpellsCode c.toNat (escaped c) := by
  unfold escaped
  split_ifs with hquote hslash hfeed hreturn htab hback hform hcontrol
  · rw [eq_of_beq hquote]
    exact .letter (by decide)
  · rw [eq_of_beq hslash]
    exact .letter (by decide)
  · rw [eq_of_beq hfeed]
    exact .letter (by decide)
  · rw [eq_of_beq hreturn]
    exact .letter (by decide)
  · rw [eq_of_beq htab]
    exact .letter (by decide)
  · rw [eq_of_beq hback]
    exact .letter (by decide)
  · rw [eq_of_beq hform]
    exact .letter (by decide)
  · have hcode := SpellsCode.hex (hexDigit_hexDigit (by decide : 0 < 16))
      (hexDigit_hexDigit (by decide : 0 < 16)) (hexDigit_hexDigit (n := c.toNat / 16) (by omega))
      (hexDigit_hexDigit (n := c.toNat % 16) (Nat.mod_lt _ (by decide)))
    have hvalue : 0 * 4096 + 0 * 256 + c.toNat / 16 * 16 + c.toNat % 16 = c.toNat := by omega
    rwa [hvalue] at hcode
  · exact .plain (Nat.not_lt.1 hcontrol) (by simpa using hquote) (by simpa using hslash)

theorem spellsCodes_escaped (cs : List Char) :
    SpellsCodes (cs.map Char.toNat) (cs.flatMap escaped) := by
  induction cs with
  | nil => exact .nil
  | cons c cs ih => exact .cons (spellsCode_escaped c) ih

theorem denotes_map_toNat (cs : List Char) : Denotes (cs.map Char.toNat) cs := by
  induction cs with
  | nil => exact .nil
  | cons c cs ih => exact .one ih

/-- **A text is written as one of its spellings.** -/
theorem spellsString_writtenString (s : String) : SpellsString (some s) (writtenString (some s)) :=
  .text (spellsCodes_escaped s.toList) (denotes_map_toNat s.toList)

/-! ## Values -/

theorem blanks_newLine (level : Nat) : Blanks (newLine level) := by
  intro c hc
  obtain rfl | hc := List.mem_cons.1 hc
  · decide
  · rw [List.eq_of_mem_replicate hc]
    decide

theorem blanks_nil : Blanks [] := by simp [Blanks]

/-- Items of which each is written as one of its spellings are written as a spelling. -/
theorem spellsItems_written {level : Nat} {item : Json} {items : List Json}
    (h : ∀ v ∈ item :: items, Spells v (written (level + 1) v)) : SpellsItems (item :: items)
      (newLine (level + 1) ++ written (level + 1) item ++ writtenItems level items) := by
  rw [List.forall_mem_cons] at h
  induction items generalizing item with
  | nil =>
    have hitem := SpellsItem.mk (blanks_newLine (level + 1)) h.1 (blanks_newLine level)
    simpa [writtenItems] using SpellsItems.last hitem
  | cons next items ih =>
    have hitem := SpellsItem.mk (blanks_newLine (level + 1)) h.1 blanks_nil
    rw [List.forall_mem_cons] at h
    simpa [writtenItems] using SpellsItems.cons hitem (ih h.2)

theorem spellsMember_written {level : Nat} {name : Option String} {v : Json} {w : List Char}
    (hname : name.isSome) (hv : Spells v (written (level + 1) v)) (hw : Blanks w) :
    SpellsMember (name, v) (newLine (level + 1) ++
      (writtenString name ++ ':' :: ' ' :: (written (level + 1) v ++ w))) := by
  obtain ⟨s, rfl⟩ := Option.isSome_iff_exists.1 hname
  have hspace : Blanks [' '] := by simp [Blanks]
  exact .mk (blanks_newLine _) (spellsString_writtenString s) blanks_nil (.mk hspace hv hw)

theorem spellsMembers_written {level : Nat} {m : Option String × Json}
    {members : List (Option String × Json)} (hnames : ∀ m' ∈ m :: members, m'.1.isSome)
    (h : ∀ m' ∈ m :: members, Spells m'.2 (written (level + 1) m'.2)) :
    SpellsMembers (m :: members) (newLine (level + 1) ++ writtenString m.1 ++ ':' :: ' ' ::
      written (level + 1) m.2 ++ writtenMembers level members) := by
  rw [List.forall_mem_cons] at hnames h
  induction members generalizing m with
  | nil =>
    have hmember := spellsMember_written hnames.1 h.1 (blanks_newLine level)
    simpa [writtenMembers] using SpellsMembers.last hmember
  | cons next members ih =>
    have hmember := spellsMember_written hnames.1 h.1 blanks_nil
    rw [List.forall_mem_cons] at hnames h
    simpa [writtenMembers] using SpellsMembers.cons hmember (ih hnames.2 h.2)

/-- **A value is written as one of its spellings.** -/
theorem spells_written {v : Json} (h : Writable v) (level : Nat) : Spells v (written level v) := by
  induction h generalizing level with
  | null => exact .null
  | bool b => cases b <;> constructor
  | number hs => exact .number hs
  | string s => exact .string (spellsString_writtenString s)
  | @array items _ ih =>
    cases items with
    | nil => exact .emptyArray blanks_nil
    | cons item items => exact .array (spellsItems_written fun v hv => ih v hv _)
  | @object members hnames _ ih =>
    cases members with
    | nil => exact .emptyObject blanks_nil
    | cons m members => exact .object (spellsMembers_written hnames fun m hm => ih m hm _)

/-- **A rendered value is one of its JSON texts.** -/
theorem spelledBy_render {v : Json} (h : Writable v) : SpelledBy v v.render := by
  have hitem := SpellsItem.mk blanks_nil (spells_written h 0) blanks_nil
  rwa [List.nil_append, List.append_nil, ← String.toList_ofList (l := written 0 v)] at hitem

/-- **What is written is read back.** -/
theorem ofText?_render {v : Json} (h : Writable v) : ofText? v.render = some v :=
  ofText?_of_spelledBy (spelledBy_render h)

end Clinker.Json

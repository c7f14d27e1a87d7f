import Clinker.Environment
import Clinker.Proofs.Text.Lines
import Clinker.Proofs.Text.Trimming
import Clinker.Proofs.Variables.Settings

/-!
# Listings and settings give the same environment

An environment is captured from the listing a script prints or from the settings of a prompt. A
listing shows each setting on a line `name=value` of its own; lines that start with `=` or contain
none may stand between them (`Lists`). Reading it gives the environment of the settings, in which
the last one of each name counts, whatever the case of the name (`ofListing_of_lists`).

The reader drops white space around a name and carriage returns after a value. A setting that a
listing can show (`Showable`) has neither, so reading its line gives the setting back
(`readLine?_setting`).
-/

namespace Clinker.Environment

open Text

/-! ## What a listing shows -/

/-- A setting that one line of a listing can show. -/
structure Showable (name value : String) : Prop where
  name_ink : isBlank name = false
  name_trimmed : Trimmed name.toList
  name_equals : '=' ∉ name.toList
  name_line : '\n' ∉ name.toList
  value_line : '\n' ∉ value.toList
  value_end : value.toList.getLast? ≠ some '\r'

/-- A line that sets nothing: it starts with an equals sign or contains none. -/
def IsIdle (line : List Char) : Prop := line.head? = some '=' ∨ '=' ∉ line

/-- A listing of some settings, in order. Lines that set nothing may end as they like, and what
stands after the last line feed may be empty. -/
inductive Lists : List (String × String) → List Char → Prop
  | last {line : List Char} : '\n' ∉ line → IsIdle line → Lists [] line
  | idle {settings : List (String × String)} {line rest : List Char} :
      '\n' ∉ line → IsIdle line → Lists settings rest → Lists settings (line ++ '\n' :: rest)
  | setting {name value : String} {settings : List (String × String)} {rest : List Char} :
      Showable name value → Lists settings rest →
      Lists ((name, value) :: settings)
        (name.toList ++ '=' :: (value.toList ++ '\r' :: '\n' :: rest))

/-! ## Reading a line -/

theorem readLine?_idle {line : List Char} (h : IsIdle line) : readLine? line = none := by
  obtain h | h := h
  · simp [readLine?, h]
  · simp [readLine?, cutAt_eq_none h]

/-- **The line of a setting is read as the setting**, with its name in upper case. -/
theorem readLine?_setting {name value : String} (h : Showable name value) :
    readLine? (name.toList ++ '=' :: value.toList) = some (upper name, value) := by
  have hne : name.toList ≠ [] := by
    intro hnil
    have hblank := h.name_ink
    simp [isBlank, hnil] at hblank
  have hhead : (name.toList ++ '=' :: value.toList).head? ≠ some '=' := by
    intro heq
    rw [List.head?_append_of_ne_nil _ hne] at heq
    exact h.name_equals (List.mem_of_mem_head? heq)
  have hvalue : dropEndWhile (· == '\r') value.toList = value.toList := by
    refine dropEndWhile_of_getLast? fun c hc => ?_
    rw [beq_eq_false_iff_ne]
    intro heq
    exact h.value_end (heq ▸ hc)
  have hink : name.toList.all isSpace = false := h.name_ink
  rw [readLine?, if_neg (by simpa using hhead), cutAt_append_cons h.name_equals]
  simp [hink, h.name_trimmed.trimChars_eq, hvalue]

theorem IsIdle.dropFinalReturn {line : List Char} (h : IsIdle line) :
    IsIdle (dropFinalReturn line) := by
  by_cases hcr : line.getLast? = some '\r'
  · obtain ⟨front, rfl⟩ := List.getLast?_eq_some_iff.1 hcr
    rw [dropFinalReturn_return]
    obtain h | h := h
    · cases front with
      | nil => simp at h
      | cons c front => exact .inl h
    · exact .inr fun hmem => h (List.mem_append_left _ hmem)
  · rwa [dropFinalReturn_of_ne hcr]

/-! ## Reading a listing -/

/-- **A listing is read as its settings.** By induction on the listing, which the reader takes one
line at a time. -/
theorem filterMap_readLine?_lines {settings : List (String × String)} {cs : List Char}
    (h : Lists settings cs) :
    (lines cs).filterMap readLine? = settings.map fun (k, v) => (upper k, v) := by
  induction h with
  | @last line hline hidle =>
    by_cases hne : line = []
    · subst hne
      rfl
    · simp [lines_last hne hline, readLine?_idle hidle]
  | idle hline hidle _ ih =>
    rw [lines_append_cons hline, List.filterMap_cons_none (readLine?_idle hidle.dropFinalReturn), ih]
  | @setting name value settings rest hshow _ ih =>
    have hline : '\n' ∉ name.toList ++ '=' :: (value.toList ++ ['\r']) := by
      simp [hshow.name_line, hshow.value_line]
    have htext : name.toList ++ '=' :: (value.toList ++ '\r' :: '\n' :: rest) =
        (name.toList ++ '=' :: (value.toList ++ ['\r'])) ++ '\n' :: rest := by simp
    have hreturn : dropFinalReturn (name.toList ++ '=' :: (value.toList ++ ['\r'])) =
        name.toList ++ '=' :: value.toList := by
      rw [← List.cons_append, ← List.append_assoc, dropFinalReturn_return]
    rw [htext, lines_append_cons hline, hreturn,
      List.filterMap_cons_some (readLine?_setting hshow), ih, List.map_cons]

theorem mem_ofPairs {settings : List (String × String)} {key value : String} :
    (key, value) ∈ (ofPairs settings).vars ↔
      ∃ name, LastBy (fun s => upper s.1) settings (name, value) ∧ upper name = key := by
  rw [ofPairs, Variables.mem_ofSettings, lastBy_map]
  constructor
  · intro h
    obtain ⟨⟨name, _⟩, hlast, heq⟩ := h
    obtain ⟨rfl, rfl⟩ := Prod.mk.inj heq
    exact ⟨name, hlast, rfl⟩
  · intro h
    obtain ⟨name, hlast, rfl⟩ := h
    exact ⟨(name, value), hlast, rfl⟩

/-- **A listing gives the environment of the settings it shows.** Its variables are in the order of
their names, each name once and in upper case, and each has the value that was set last under a
name with this upper case. -/
theorem ofListing_of_lists {settings : List (String × String)} {listing : String}
    (h : Lists settings listing.toList) :
    ofListing listing = ofPairs settings ∧ Variables.Sorted (ofListing listing).vars ∧
      ∀ key value, (key, value) ∈ (ofListing listing).vars ↔
        ∃ name, LastBy (fun s => upper s.1) settings (name, value) ∧ upper name = key := by
  have heq : ofListing listing = ofPairs settings := by
    rw [ofListing, ofPairs, filterMap_readLine?_lines h]
  refine ⟨heq, Variables.sorted_ofSettings _, fun key value => ?_⟩
  rw [heq, mem_ofPairs]

/-! A listing with a line of the command interpreter, a line that is no setting, a value with an
equals sign and a carriage return in it, and a name in two cases. -/

def promptSettings : List (String × String) :=
  [("Path", "C:\\VS"), ("Opt", "a=\rb "), ("PATH", "D:\\")]

def promptListing : String := "=C:=C:\\\r\nPath=C:\\VS\r\nno setting\nOpt=a=\rb \r\nPATH=D:\\\r\n"

theorem lists_promptListing : Lists promptSettings promptListing.toList := by
  have htext : promptListing.toList = "=C:=C:\\\r".toList ++ '\n' ::
      ("Path".toList ++ '=' :: ("C:\\VS".toList ++ '\r' :: '\n' ::
        ("no setting".toList ++ '\n' :: ("Opt".toList ++ '=' :: ("a=\rb ".toList ++ '\r' :: '\n' ::
          ("PATH".toList ++ '=' :: ("D:\\".toList ++ '\r' :: '\n' :: []))))))) := by decide
  rw [htext]
  refine .idle (by decide) (.inl (by decide)) (.setting ?_ (.idle (by decide) (.inr (by decide))
    (.setting ?_ (.setting ?_ (.last (by decide) (.inr (by decide)))))))
  all_goals
    exact ⟨by decide, by decide, by decide, by decide, by decide, by decide⟩

theorem ofListing_promptListing :
    Lists promptSettings promptListing.toList ∧ ofListing promptListing = ofPairs promptSettings ∧
      (ofListing promptListing).vars = [("OPT", "a=\rb "), ("PATH", "D:\\")] := by
  have h := (ofListing_of_lists lists_promptListing).1
  refine ⟨lists_promptListing, h, ?_⟩
  rw [h]
  decide +kernel

end Clinker.Environment

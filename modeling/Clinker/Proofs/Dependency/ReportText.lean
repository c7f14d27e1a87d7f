import Clinker.Dependency.Report
import Clinker.Proofs.Json.Writing
import Mathlib.Tactic.SplitIfs

/-!
# Which reports are read

The compiler may write its report in many ways: known members in any order and unknown ones
between them, lists left out when they are empty, and each string and the white space spelled as
it likes. Whatever the spelling, the report that the members state is read (`ReportMembers`), and
no report is read if a known member stands twice, one that has no default is missing, or a list is
null (`ReportFault`). Both follow from what is read of the text, `Json.ofText?_of_spelledBy`, and
from the values that the members of one name have (`membersNamed`).
-/

namespace Clinker.Dependency

variable {members inner : List (Option String × Json)} {name : String}

/-! ## Members of an object -/

/-- The members that have one of some names, in their order. -/
def among (names : List String) (members : List (Option String × Json)) :
    List (Option String × Json) :=
  members.filter fun m => m.1.any (names.contains ·)

/-- Two members of one name. -/
def Repeated (name : String) (members : List (Option String × Json)) : Prop :=
  ∃ v w, [(some name, v), (some name, w)].Sublist members

/-- No member of a name. -/
def Missing (name : String) (members : List (Option String × Json)) : Prop :=
  ∀ v, (some name, v) ∉ members

theorem membersNamed_eq (name : String) (members : List (Option String × Json)) :
    membersNamed name members = (members.filter (·.1 == some name)).map Prod.snd := by
  rw [← List.filterMap_eq_map', List.filterMap_filter]
  rfl

theorem membersNamed_append (name : String) (a b : List (Option String × Json)) :
    membersNamed name (a ++ b) = membersNamed name a ++ membersNamed name b :=
  List.filterMap_append

theorem membersNamed_cons (name key : String) (v : Json) (members : List (Option String × Json)) :
    membersNamed name ((some key, v) :: members) =
      if key = name then v :: membersNamed name members else membersNamed name members := by
  by_cases h : key = name <;> simp [membersNamed, h]

theorem mem_membersNamed {v : Json} :
    v ∈ membersNamed name members ↔ (some name, v) ∈ members := by
  simp [membersNamed_eq]

theorem membersNamed_among {names : List String} (h : name ∈ names)
    (members : List (Option String × Json)) :
    membersNamed name (among names members) = membersNamed name members := by
  rw [membersNamed_eq, membersNamed_eq, among, List.filter_filter]
  congr 1
  refine List.filter_congr fun m _ => ?_
  by_cases hm : m.1 = some name <;> simp [hm, h]

/-- Members in another order give a name the same values. -/
theorem membersNamed_perm {names : List String} (h : name ∈ names)
    {stated : List (Option String × Json)} (hperm : (among names members).Perm stated) :
    (membersNamed name members).Perm (membersNamed name stated) := by
  rw [← membersNamed_among h]
  exact hperm.filterMap _

theorem membersNamed_of_missing (h : Missing name members) : membersNamed name members = [] :=
  List.eq_nil_iff_forall_not_mem.2 fun v hv => h v (mem_membersNamed.1 hv)

/-- A name with one value at most is not repeated. -/
theorem not_repeated (h : (membersNamed name members).length ≤ 1) : ¬ Repeated name members := by
  rintro ⟨v, w, hsublist⟩
  have hvalues : [v, w].Sublist (membersNamed name members) := by
    rw [membersNamed_eq]
    simpa using (hsublist.filter (·.1 == some name)).map Prod.snd
  have htwo : 2 ≤ (membersNamed name members).length := hvalues.length_le
  omega

theorem namesAreTexts_iff : namesAreTexts members = true ↔ ∀ v, (none, v) ∉ members := by
  simp only [namesAreTexts, List.all_eq_true, Option.isSome_iff_ne_none]
  constructor
  · intro h v hmem
    exact h _ hmem rfl
  · rintro h ⟨k, v⟩ hmem rfl
    exact h v hmem

/-! ## What the members of a report state -/

/-- A list of texts as a value. -/
def listOfTexts (texts : List String) : Json := .array (texts.map fun s => .string (some s))

/-- The members that state a list: one, or none if the list is empty. -/
inductive StatesList (name : String) : List String → List (Option String × Json) → Prop
  | given (texts : List String) : StatesList name texts [(some name, listOfTexts texts)]
  | omitted : StatesList name [] []

/-- The members of the data of a report: a source and two lists in any order, and any others. -/
inductive DataMembers (r : Report) (members : List (Option String × Json)) : Prop
  | mk {includes units : List (Option String × Json)} :
      (∀ v, (none, v) ∉ members) →
      StatesList "Includes" r.includes includes →
      StatesList "ImportedHeaderUnits" r.headerUnits units →
      (among ["Source", "Includes", "ImportedHeaderUnits"] members).Perm
        ((some "Source", .string (some r.source)) :: (includes ++ units)) →
      DataMembers r members

/-- The members of a report: a version and its data in any order, and any others. -/
inductive ReportMembers (r : Report) (members : List (Option String × Json)) : Prop
  | mk {inner : List (Option String × Json)} :
      (∀ v, (none, v) ∉ members) →
      (among ["Version", "Data"] members).Perm
        [(some "Version", .string (some r.version)), (some "Data", .object inner)] →
      DataMembers r inner → ReportMembers r members

/-- What is wrong with the members of the data of a report. -/
inductive DataFault (members : List (Option String × Json)) : Prop
  | repeated {name : String} :
      name ∈ ["Source", "Includes", "ImportedHeaderUnits"] → Repeated name members →
      DataFault members
  | missing : Missing "Source" members → DataFault members
  | nullList {name : String} :
      name ∈ ["Includes", "ImportedHeaderUnits"] → (some name, .null) ∈ members → DataFault members
  | nullItem {name : String} {items : List Json} :
      name ∈ ["Includes", "ImportedHeaderUnits"] → (some name, .array items) ∈ members →
      .null ∈ items → DataFault members
  | noName {v : Json} : (none, v) ∈ members → DataFault members

/-- What is wrong with the members of a report. -/
inductive ReportFault (members : List (Option String × Json)) : Prop
  | repeated {name : String} :
      name ∈ ["Version", "Data"] → Repeated name members → ReportFault members
  | missing {name : String} :
      name ∈ ["Version", "Data"] → Missing name members → ReportFault members
  | noName {v : Json} : (none, v) ∈ members → ReportFault members
  | data {inner : List (Option String × Json)} :
      (some "Data", .object inner) ∈ members → DataFault inner → ReportFault members

/-! ## Reports that are read -/

theorem member?_of_perm {v : Json} (hvalues : (membersNamed name members).Perm [v]) :
    member? name members = some v := by
  rw [member?, List.perm_singleton.1 hvalues]

theorem StatesList.membersNamed_of_ne {texts : List String} {l : List (Option String × Json)}
    {other : String} (h : StatesList name texts l) (hne : name ≠ other) :
    membersNamed other l = [] := by
  cases h with
  | given => rw [membersNamed_cons, if_neg hne]; rfl
  | omitted => rfl

/-- The values of a list that is stated are the list or nothing. -/
theorem StatesList.listMember? {texts : List String} {l : List (Option String × Json)}
    (h : StatesList name texts l) (hvalues : (membersNamed name members).Perm (membersNamed name l)) :
    listMember? name members = some texts := by
  cases h with
  | given =>
    rw [membersNamed_cons, if_pos rfl] at hvalues
    simp [Dependency.listMember?, List.perm_singleton.1 hvalues, listOfTexts]
  | omitted => simp [Dependency.listMember?, List.perm_nil.1 hvalues]

/-- **The data are read from the members that state them.** -/
theorem data?_of_dataMembers {r : Report} (h : DataMembers r members) :
    Report.data? (.object members) = some (r.source, r.includes, r.headerUnits) := by
  obtain ⟨hnames, hincludes, hunits, hperm⟩ := h
  have hsource := membersNamed_perm (by decide : "Source" ∈ _) hperm
  have hlist := membersNamed_perm (by decide : "Includes" ∈ _) hperm
  have hlist' := membersNamed_perm (by decide : "ImportedHeaderUnits" ∈ _) hperm
  rw [membersNamed_cons, membersNamed_append] at hsource hlist hlist'
  rw [hincludes.membersNamed_of_ne (by decide), hunits.membersNamed_of_ne (by decide)] at hsource
  rw [hunits.membersNamed_of_ne (by decide), List.append_nil] at hlist
  rw [hincludes.membersNamed_of_ne (by decide), List.nil_append] at hlist'
  simp [Report.data?, namesAreTexts_iff.2 hnames, member?_of_perm hsource, Json.text?,
    hincludes.listMember? hlist, hunits.listMember? hlist']

/-- **A report is read from the members that state it.** -/
theorem ofJson?_of_reportMembers {r : Report} (h : ReportMembers r members) :
    Report.ofJson? (.object members) = some r := by
  obtain ⟨hnames, hperm, hdata⟩ := h
  next inner =>
  have hversion := member?_of_perm (membersNamed_perm (by decide : "Version" ∈ _) hperm)
  have hinner := member?_of_perm (membersNamed_perm (by decide : "Data" ∈ _) hperm)
  simp [Report.ofJson?, Report.ofParts?, namesAreTexts_iff.2 hnames, hversion, hinner, Json.text?,
    data?_of_dataMembers hdata]

/-! ## Reports that are refused -/

theorem membersNamed_of_member? {v : Json} (h : member? name members = some v) :
    membersNamed name members = [v] := by
  unfold member? at h
  split at h
  · next w hone => rw [hone, Option.some.inj h]
  · cases h

/-- **A member that is read stands once.** -/
theorem once_of_member? {v : Json} (h : member? name members = some v) :
    ¬ Repeated name members ∧ ¬ Missing name members := by
  have hone := membersNamed_of_member? h
  refine ⟨not_repeated (by simp [hone]), fun hmissing => ?_⟩
  rw [membersNamed_of_missing hmissing] at hone
  cases hone

/-- **A list that is read stands once at most**, and holds texts. -/
theorem once_of_listMember? {texts : List String} (h : listMember? name members = some texts) :
    ¬ Repeated name members ∧ ∀ v, (some name, v) ∈ members → v.texts? = some texts := by
  unfold listMember? at h
  split at h
  · next hnone =>
    refine ⟨not_repeated (by simp [hnone]), fun v hv => ?_⟩
    rw [← mem_membersNamed, hnone] at hv
    cases hv
  · next w hone =>
    refine ⟨not_repeated (by simp [hone]), fun v hv => ?_⟩
    rw [← mem_membersNamed, hone, List.mem_singleton] at hv
    rw [hv, h]
  · cases h

theorem data?_object_eq_some {source : String} {includes units : List String}
    (h : Report.data? (.object members) = some (source, includes, units)) :
    (∀ v, (none, v) ∉ members) ∧ (∃ v, member? "Source" members = some v) ∧
      listMember? "Includes" members = some includes ∧
      listMember? "ImportedHeaderUnits" members = some units := by
  simp only [Report.data?] at h
  split_ifs at h with hnames
  simp only [Option.bind_eq_bind, Option.bind_eq_some_iff] at h
  obtain ⟨v, hv, source', -, includes', hincludes, units', hunits, h⟩ := h
  obtain ⟨rfl, rfl⟩ := Prod.mk.inj (Prod.mk.inj (Option.some.inj h)).2
  exact ⟨namesAreTexts_iff.1 hnames, ⟨v, hv⟩, hincludes, hunits⟩

/-- An array with a null in it is no list of texts. -/
theorem texts?_of_null_mem {items : List Json} (h : .null ∈ items) :
    (Json.array items).texts? = none := by
  rw [Json.texts?]
  induction items with
  | nil => cases h
  | cons item items ih =>
    obtain rfl | hmem := List.mem_cons.1 h
    · rfl
    · simp [List.mapM_cons, ih hmem]

/-- **Data with a fault are not read.** -/
theorem data?_of_fault (h : DataFault members) : Report.data? (.object members) = none := by
  refine Option.eq_none_iff_forall_ne_some.2 fun ⟨source, includes, units⟩ hread => ?_
  obtain ⟨hnames, ⟨v, hsource⟩, hincludes, hunits⟩ := data?_object_eq_some hread
  have hlist : ∀ {name}, name ∈ ["Includes", "ImportedHeaderUnits"] →
      ∃ texts, listMember? name members = some texts := by
    intro name hname
    simp only [List.mem_cons, List.not_mem_nil, or_false] at hname
    obtain rfl | rfl := hname
    · exact ⟨_, hincludes⟩
    · exact ⟨_, hunits⟩
  cases h with
  | repeated hname hrepeated =>
    obtain rfl | hname := List.mem_cons.1 hname
    · exact (once_of_member? hsource).1 hrepeated
    · obtain ⟨texts, htexts⟩ := hlist hname
      exact (once_of_listMember? htexts).1 hrepeated
  | missing hmissing => exact (once_of_member? hsource).2 hmissing
  | nullList hname hnull =>
    obtain ⟨texts, htexts⟩ := hlist hname
    cases (once_of_listMember? htexts).2 _ hnull
  | nullItem hname hitems hnull =>
    obtain ⟨texts, htexts⟩ := hlist hname
    have hread := (once_of_listMember? htexts).2 _ hitems
    rw [texts?_of_null_mem hnull] at hread
    cases hread
  | noName hv => exact hnames _ hv

theorem ofJson?_object_eq_some {r : Report} (h : Report.ofJson? (.object members) = some r) :
    (∀ v, (none, v) ∉ members) ∧ (∃ v, member? "Version" members = some v) ∧
      ∃ data, member? "Data" members = some data ∧ (Report.data? data).isSome := by
  simp only [Report.ofJson?] at h
  split_ifs at h with hnames
  simp only [Option.bind_eq_bind, Option.bind_eq_some_iff] at h
  obtain ⟨v, hv, data, hdata, h⟩ := h
  simp only [Report.ofParts?, Option.bind_eq_bind, Option.bind_eq_some_iff] at h
  obtain ⟨-, -, parts, hparts, -⟩ := h
  exact ⟨namesAreTexts_iff.1 hnames, ⟨v, hv⟩, data, hdata, Option.isSome_of_eq_some hparts⟩

/-- **A report with a fault is not read.** -/
theorem ofJson?_of_fault (h : ReportFault members) : Report.ofJson? (.object members) = none := by
  refine Option.eq_none_iff_forall_ne_some.2 fun r hread => ?_
  obtain ⟨hnames, ⟨v, hversion⟩, data, hdata, hparts⟩ := ofJson?_object_eq_some hread
  have honce : ∀ {name}, name ∈ ["Version", "Data"] → ¬ Repeated name members ∧
      ¬ Missing name members := by
    intro name hname
    simp only [List.mem_cons, List.not_mem_nil, or_false] at hname
    obtain rfl | rfl := hname
    · exact once_of_member? hversion
    · exact once_of_member? hdata
  cases h with
  | repeated hname hrepeated => exact (honce hname).1 hrepeated
  | missing hname hmissing => exact (honce hname).2 hmissing
  | noName hv => exact hnames _ hv
  | data hinner hfault =>
    rw [← mem_membersNamed, membersNamed_of_member? hdata, List.mem_singleton] at hinner
    rw [← hinner, data?_of_fault hfault] at hparts
    cases hparts

/-- **A report is read from every text that states it, and from none that has a fault.** The text
may spell its members in any way and order; of the members, the known ones must state the report,
and unknown ones may hold anything. -/
theorem ofText?_report {text : String} (h : Json.SpelledBy (.object members) text) :
    (∀ r, ReportMembers r members → Report.ofText? text = some r) ∧
    (ReportFault members → Report.ofText? text = none) := by
  rw [Report.ofText?, Json.ofText?_of_spelledBy h, Option.bind_some]
  exact ⟨fun r => ofJson?_of_reportMembers, ofJson?_of_fault⟩

/-- The data of a report in another order, with one list left out and a member of no meaning. -/
def reorderedData : List (Option String × Json) :=
  [(some "ImportedHeaderUnits", listOfTexts ["😀.h"]), (some "x", .object []),
    (some "Source", .string (some "a\"\n.cpp"))]

/-- A report in another order, with a member of no meaning. -/
def reorderedReport : List (Option String × Json) :=
  [(some "note", .array [.null, .bool true]), (some "Data", .object reorderedData),
    (some "Version", .string (some "1.1"))]

/-- A report with null for a list. -/
def nullReport : List (Option String × Json) :=
  [(some "Data", .object [(some "Includes", .null), (some "Source", .string (some "a.cpp"))]),
    (some "Version", .string (some "1.1"))]

theorem writable_listOfTexts (texts : List String) : (listOfTexts texts).Writable :=
  .array (List.forall_mem_map.2 fun text _ => .string text)

theorem writable_reorderedReport : (Json.object reorderedReport).Writable := by
  have hdata : (Json.object reorderedData).Writable := by
    refine .object (by simp [reorderedData]) ?_
    simp only [reorderedData, List.forall_mem_cons]
    exact ⟨writable_listOfTexts _, .object nofun nofun, .string _, nofun⟩
  have hnote : (Json.array [.null, .bool true]).Writable := by
    refine .array ?_
    simp only [List.forall_mem_cons]
    exact ⟨.null, .bool true, nofun⟩
  refine .object (by simp [reorderedReport]) ?_
  simp only [reorderedReport, List.forall_mem_cons]
  exact ⟨hnote, hdata, .string _, nofun⟩

theorem writable_nullReport : (Json.object nullReport).Writable := by
  refine .object (by simp [nullReport]) ?_
  simp only [nullReport, List.forall_mem_cons]
  refine ⟨.object (by simp) ?_, .string _, nofun⟩
  simp only [List.forall_mem_cons]
  exact ⟨.null, .string _, nofun⟩

theorem reportMembers_reorderedReport :
    ReportMembers ⟨"1.1", "a\"\n.cpp", [], ["😀.h"]⟩ reorderedReport :=
  .mk (by simp [reorderedReport]) (List.Perm.swap _ _ [])
    (.mk (by simp [reorderedData]) .omitted (.given _) (List.Perm.swap _ _ []))

/-- Of two texts, the report in another order is read, and the one with null for a list is not. -/
theorem ofText?_reorderedReport :
    Report.ofText? (Json.object reorderedReport).render =
      some ⟨"1.1", "a\"\n.cpp", [], ["😀.h"]⟩ ∧
    Report.ofText? (Json.object nullReport).render = none :=
  ⟨(ofText?_report (Json.spelledBy_render writable_reorderedReport)).1 _
      reportMembers_reorderedReport,
    (ofText?_report (Json.spelledBy_render writable_nullReport)).2
      (.data (.head _) (.nullList (.head _) (.head _)))⟩

end Clinker.Dependency

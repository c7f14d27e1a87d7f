import Clinker.Json.Reader

/-!
# The compiler's dependency report

A JSON object with the members `Version` and `Data`, the latter an object with the source, the
headers it includes and the header units it imports; the two lists may be left out when empty.
Other members are skipped, but none of the known ones may stand twice. Either object may also be
an array of its members' values in this order.
-/

namespace Clinker.Dependency

/-- What a report says. -/
structure Report where
  version : String
  source : String
  includes : List String
  headerUnits : List String
deriving DecidableEq, Repr

/-- The values of all members of a name. -/
def membersNamed (name : String) (members : List (Option String × Json)) : List Json :=
  members.filterMap fun (k, v) => if k == some name then some v else none

/-- The value of a member that must be there exactly once. -/
def member? (name : String) (members : List (Option String × Json)) : Option Json :=
  match membersNamed name members with
  | [v] => some v
  | _ => none

/-- The texts of a member that may be missing and then counts as an empty list. -/
def listMember? (name : String) (members : List (Option String × Json)) : Option (List String) :=
  match membersNamed name members with
  | [] => some []
  | [v] => v.texts?
  | _ => none

/-- Whether the names of all members are texts. -/
def namesAreTexts (members : List (Option String × Json)) : Bool := members.all (·.1.isSome)

namespace Report

/-- Source, headers and header units. -/
def data? : Json → Option (String × List String × List String)
  | .object members =>
    if namesAreTexts members then do
      let source ← (← member? "Source" members).text?
      let includes ← listMember? "Includes" members
      let units ← listMember? "ImportedHeaderUnits" members
      return (source, includes, units)
    else none
  | .array [source] => do return (← source.text?, [], [])
  | .array [source, includes] => do return (← source.text?, ← includes.texts?, [])
  | .array [source, includes, units] => do
    return (← source.text?, ← includes.texts?, ← units.texts?)
  | _ => none

/-- The report with a given version and data. -/
def ofParts? (version data : Json) : Option Report := do
  let version ← version.text?
  let (source, includes, units) ← data? data
  return ⟨version, source, includes, units⟩

/-- The report a JSON value is. -/
def ofJson? : Json → Option Report
  | .object members =>
    if namesAreTexts members then do
      ofParts? (← member? "Version" members) (← member? "Data" members)
    else none
  | .array [version, data] => ofParts? version data
  | _ => none

/-- The report a text spells. -/
def ofText? (text : String) : Option Report := (Json.ofText? text).bind ofJson?

/-- All headers of a report, in order. -/
def headers (r : Report) : List String := r.includes ++ r.headerUnits

end Report

end Clinker.Dependency

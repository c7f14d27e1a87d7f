/-!
# JSON values

A value as its text gives it: the members of an object in order, also those that repeat a name,
and a number as it is spelled. A string may spell half a surrogate pair and is then no text;
such a string is kept as `none`, because a reader that does not look at it need not refuse it.
-/

namespace Clinker

/-- A JSON value. -/
inductive Json
  | null
  | bool (value : Bool)
  | number (spelling : String)
  | string (text : Option String)
  | array (items : List Json)
  | object (members : List (Option String × Json))

namespace Json

/-- The text of a string. -/
def text? : Json → Option String
  | string text => text
  | _ => none

/-- The texts of an array of strings. -/
def texts? : Json → Option (List String)
  | array items => items.mapM text?
  | _ => none

/-- The texts of strings are those they hold. -/
@[simp] theorem texts?_array_map (texts : List String) :
    (array (texts.map fun s => string (some s))).texts? = some texts := by
  have hpure := List.mapM_pure (m := Option) (f := id) (l := texts)
  rw [List.map_id] at hpure
  rw [texts?, List.mapM_map]
  exact hpure

end Json

end Clinker

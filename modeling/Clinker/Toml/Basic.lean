/-!
# TOML values

A value as a document gives it. Dates, times and floating point numbers are recognised but their
values are not needed here, so only their presence is kept.
-/

namespace Clinker

/-- A TOML value. -/
inductive Toml
  | string (text : String)
  | integer (value : Int)
  | float
  | boolean (value : Bool)
  | datetime
  | array (items : List Toml)
  | table (entries : List (String × Toml))

namespace Toml

/-- The text of a string. -/
def text? : Toml → Option String
  | string text => some text
  | _ => none

/-- The value of a boolean. -/
def bool? : Toml → Option Bool
  | boolean value => some value
  | _ => none

/-- The value of an integer that is not negative. -/
def nat? : Toml → Option Nat
  | integer (.ofNat n) => some n
  | _ => none

/-- The items of an array. -/
def items? : Toml → Option (List Toml)
  | array items => some items
  | _ => none

end Toml

end Clinker

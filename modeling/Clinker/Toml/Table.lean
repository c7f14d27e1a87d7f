import Clinker.Toml.Basic

/-!
# Tables under construction

A document builds its tables piece by piece, and the rules about what may be added to a table
depend on how it came to be: by a header of its own, as a parent in another header, or by a
dotted key. Tables of an array of tables are reached through the last of them.
-/

namespace Clinker.Toml

/-- How a table came to be. -/
inductive Origin
  /-- By a header of its own. -/
  | header
  /-- As a parent of a table with a header. -/
  | parent
  /-- By a dotted key. -/
  | dotted
deriving DecidableEq, Repr

/-- What a key of an unfinished table holds. -/
inductive Node
  | value (v : Toml)
  | table (origin : Origin) (entries : List (String × Node))
  | tables (items : List (List (String × Node)))

namespace Node

mutual

/-- The value that a finished node is. -/
def finish : Node → Toml
  | .value v => v
  | .table _ entries => .table (finishEntries entries)
  | .tables items => .array (finishItems items)

/-- The entries of a finished table. -/
def finishEntries : List (String × Node) → List (String × Toml)
  | [] => []
  | (k, n) :: rest => (k, n.finish) :: finishEntries rest

/-- The tables of a finished array of tables. -/
def finishItems : List (List (String × Node)) → List Toml
  | [] => []
  | entries :: rest => .table (finishEntries entries) :: finishItems rest

end

end Node

/-- An unfinished table. -/
structure Draft where
  origin : Origin
  entries : List (String × Node)

namespace Draft

/-- A table with nothing in it. -/
def empty (origin : Origin) : Draft := ⟨origin, []⟩

/-- The table with one key holding something else. -/
def put (d : Draft) (key : String) (n : Node) : Draft :=
  if d.entries.any (·.1 == key) then
    { d with entries := d.entries.map fun (k, old) => (k, if k == key then n else old) }
  else { d with entries := d.entries ++ [(key, n)] }

/-- Change the table that `path` leads to. Tables on the way that do not exist are created with
the given origin; a dotted key may not pass through a table with a header of its own. -/
def change (origin : Origin) (f : Draft → Option Draft) : List String → Draft → Option Draft
  | [], d => f d
  | key :: path, d =>
    match d.entries.lookup key with
    | none => do
      let inner ← change origin f path (.empty origin)
      return d.put key (.table inner.origin inner.entries)
    | some (.value _) => none
    | some (.table existing entries) =>
      if origin == .dotted && existing == .header then none
      else do
        let inner ← change origin f path ⟨existing, entries⟩
        return d.put key (.table inner.origin inner.entries)
    | some (.tables items) =>
      match items.getLast? with
      | none => none
      | some entries => do
        let inner ← change origin f path ⟨.header, entries⟩
        return d.put key (.tables (items.dropLast ++ [inner.entries]))

/-- The table with a value for a key that has none. -/
def insert (key : String) (v : Toml) (d : Draft) : Option Draft :=
  if (d.entries.lookup key).isSome then none else some (d.put key (.value v))

/-- The table with a value for a dotted key. The value goes into a table that dotted keys made,
unless there is no dot. -/
def insertDotted (path : List String) (key : String) (v : Toml) (d : Draft) : Option Draft :=
  change .dotted
    (fun inner => if path != [] && inner.origin != .dotted then none else inner.insert key v)
    path d

/-- The document with a table of its own at a path. -/
def openTable (path : List String) (key : String) (d : Draft) : Option Draft :=
  change .parent
    (fun outer =>
      match outer.entries.lookup key with
      | none => some (outer.put key (.table .header []))
      | some (.table .parent entries) => some (outer.put key (.table .header entries))
      | some _ => none)
    path d

/-- The document with one more table in the array at a path. -/
def openItem (path : List String) (key : String) (d : Draft) : Option Draft :=
  change .parent
    (fun outer =>
      match outer.entries.lookup key with
      | none => some (outer.put key (.tables [[]]))
      | some (.tables items) => some (outer.put key (.tables (items ++ [[]])))
      | some _ => none)
    path d

/-- The table that a finished draft is. -/
def finish (d : Draft) : Toml := .table (Node.finishEntries d.entries)

end Draft

end Clinker.Toml

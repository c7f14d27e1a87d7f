/-!
# Variables

A finite map from names to values, kept as a list sorted by name with each name once. Setting a
name again replaces its value, so a list of settings is read with the last one winning.
-/

namespace Clinker.Variables

/-- Set a variable, replacing an earlier setting. -/
def set (key value : String) : List (String × String) → List (String × String)
  | [] => [(key, value)]
  | (k, v) :: rest =>
    if key == k then (key, value) :: rest
    else if key < k then (key, value) :: (k, v) :: rest
    else (k, v) :: set key value rest

/-- The variables that a list of settings leaves. -/
def ofSettings (settings : List (String × String)) : List (String × String) :=
  settings.foldl (fun vars (k, v) => set k v vars) []

/-- The value of a variable. -/
def get? (key : String) (vars : List (String × String)) : Option String := vars.lookup key

@[simp] theorem get?_nil (key : String) : get? key [] = none := rfl

/-- A variable that was set has the value it was set to. -/
theorem get?_set_self (key value : String) (vars : List (String × String)) :
    get? key (set key value vars) = some value := by
  induction vars with
  | nil => simp [set, get?]
  | cons kv rest ih =>
    obtain ⟨k, v⟩ := kv
    simp only [set]
    split
    · simp [get?]
    · split
      · simp [get?]
      · rename_i hne _
        have : (key == k) = false := by simpa using hne
        simpa [get?, List.lookup_cons, this] using ih

/-- Setting one variable changes no other. -/
theorem get?_set_of_ne {key other : String} (h : other ≠ key) (value : String)
    (vars : List (String × String)) : get? other (set key value vars) = get? other vars := by
  have hb : (other == key) = false := by simpa using h
  induction vars with
  | nil => simp [set, get?, List.lookup_cons, hb]
  | cons kv rest ih =>
    obtain ⟨k, v⟩ := kv
    simp only [set]
    split
    · rename_i heq
      have hk := eq_of_beq heq
      subst hk
      simp [get?, List.lookup_cons, hb]
    · split
      · simp [get?, List.lookup_cons, hb]
      · cases hok : other == k <;> simp_all [get?, List.lookup_cons]

end Clinker.Variables

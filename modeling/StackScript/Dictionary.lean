import StackScript.Text.Order
import StackScript.Value

/-!
# Dictionaries

A dictionary binds names to values. It is a list of bindings in the order in which the names were
first bound, and no name is bound twice; the second half of that is part of the type, so that two
dictionaries with equally many bindings, each of which the other has too, bind the same names.

What an operation does is said through `Dictionary.get?` (`get?_insert`); the list itself matters
only to listings, which show it sorted by name.
-/

namespace StackScript

/-- Binds a name in a list of bindings: the first binding of that name is replaced, and if there is
none a new one is added at the end. -/
def bindIn (n : Name) (v : Value) : List (Name × Value) → List (Name × Value)
  | [] => [(n, v)]
  | (m, w) :: rest => if m = n then (n, v) :: rest else (m, w) :: bindIn n v rest

/-- The value of the first binding of a name. -/
def lookupIn (n : Name) : List (Name × Value) → Option Value
  | [] => none
  | (m, w) :: rest => if m = n then some w else lookupIn n rest

/-- Binding a name adds no other. -/
theorem mem_bindIn_names {n m : Name} {v : Value} {entries : List (Name × Value)} :
    m ∈ (bindIn n v entries).map Prod.fst ↔ m = n ∨ m ∈ entries.map Prod.fst := by
  induction entries with
  | nil => simp [bindIn]
  | cons entry rest ih =>
    obtain ⟨k, w⟩ := entry
    by_cases h : k = n
    · subst h
      simp [bindIn]
    · simp only [bindIn, h, if_false, List.map_cons, List.mem_cons, ih]
      exact or_left_comm

/-- Binding a name keeps the names distinct. -/
theorem nodup_bindIn {n : Name} {v : Value} {entries : List (Name × Value)}
    (h : (entries.map Prod.fst).Nodup) : ((bindIn n v entries).map Prod.fst).Nodup := by
  induction entries with
  | nil => simp [bindIn]
  | cons entry rest ih =>
    obtain ⟨k, w⟩ := entry
    simp only [List.map_cons, List.nodup_cons] at h
    by_cases hk : k = n
    · subst hk
      simpa [bindIn] using h
    · simp only [bindIn, hk, if_false, List.map_cons, List.nodup_cons]
      refine ⟨fun hmem => ?_, ih h.2⟩
      rcases mem_bindIn_names.mp hmem with rfl | hrest
      · exact hk rfl
      · exact h.1 hrest

/-- A finite map from names to values. -/
structure Dictionary where
  /-- the bindings, in the order in which the names were first bound -/
  entries : List (Name × Value)
  /-- no name is bound twice -/
  nodup : (entries.map Prod.fst).Nodup

namespace Dictionary

/-- The dictionary without bindings. -/
def empty : Dictionary :=
  ⟨[], List.nodup_nil⟩

instance : Inhabited Dictionary := ⟨empty⟩

/-- How many names are bound. -/
def size (d : Dictionary) : Nat :=
  d.entries.length

/-- Whether no name is bound. -/
def isEmpty (d : Dictionary) : Bool :=
  d.entries.isEmpty

/-- The value that a name is bound to. -/
def get? (d : Dictionary) (n : Name) : Option Value :=
  lookupIn n d.entries

/-- Binds a name, replacing what it was bound to. -/
def insert (d : Dictionary) (n : Name) (v : Value) : Dictionary :=
  ⟨bindIn n v d.entries, nodup_bindIn d.nodup⟩

/-- The dictionary with the given bindings; of several for one name the last one counts. -/
def ofList (entries : List (Name × Value)) : Dictionary :=
  entries.foldl (fun d entry => d.insert entry.1 entry.2) empty

/-- The bindings in the order of their names. -/
def sorted (d : Dictionary) : List (Name × Value) :=
  d.entries.mergeSort fun a b => Text.le a.1.chars b.1.chars

/-! ## Looking up -/

@[simp] theorem get?_empty (n : Name) : empty.get? n = none :=
  rfl

/-- The list of bindings, looked at after a name is bound. -/
theorem lookupIn_bindIn (n m : Name) (v : Value) (entries : List (Name × Value)) :
    lookupIn m (bindIn n v entries) = if m = n then some v else lookupIn m entries := by
  induction entries with
  | nil =>
    by_cases h : m = n
    · simp [bindIn, lookupIn, h]
    · simp [bindIn, lookupIn, h, Ne.symm h]
  | cons entry rest ih =>
    obtain ⟨k, w⟩ := entry
    by_cases hk : k = n
    · subst hk
      by_cases h : m = k
      · simp [bindIn, lookupIn, h]
      · simp [bindIn, lookupIn, h, Ne.symm h]
    · by_cases h : m = k
      · subst h
        simp [bindIn, lookupIn, hk]
      · simp [bindIn, lookupIn, hk, Ne.symm h, ih]

/-- In a list that binds no name twice, what is found under a name is what it is bound to. -/
theorem lookupIn_eq_some_iff {n : Name} {v : Value} {entries : List (Name × Value)}
    (h : (entries.map Prod.fst).Nodup) : lookupIn n entries = some v ↔ (n, v) ∈ entries := by
  induction entries with
  | nil => simp [lookupIn]
  | cons entry rest ih =>
    obtain ⟨k, w⟩ := entry
    simp only [List.map_cons, List.nodup_cons] at h
    by_cases hk : k = n
    · subst hk
      have hrest : (k, v) ∉ rest := fun hmem => h.1 (List.mem_map_of_mem hmem)
      simp [lookupIn, hrest, eq_comm]
    · have hne : ¬ n = k := fun heq => hk heq.symm
      simp [lookupIn, hk, hne, ih h.2]

/-- What is found under a name is what the dictionary binds it to. -/
theorem get?_eq_some_iff {d : Dictionary} {n : Name} {v : Value} :
    d.get? n = some v ↔ (n, v) ∈ d.entries :=
  lookupIn_eq_some_iff d.nodup

/-- After a name is bound it has that value, and every other name has the value it had before. -/
@[simp] theorem get?_insert (d : Dictionary) (n m : Name) (v : Value) :
    (d.insert n v).get? m = if m = n then some v else d.get? m :=
  lookupIn_bindIn n m v d.entries

end Dictionary

end StackScript

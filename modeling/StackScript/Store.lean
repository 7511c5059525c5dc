import StackScript.Dictionary

/-!
# The store

The store holds every array and every dictionary of a session, each at a place of its own. It only
grows: a place, once handed out, keeps referring to the same array or dictionary for good, and the
place of a new one is simply the next. That a place was never handed out is not excluded by the
types; such a place reads as an empty array or dictionary and cannot be written.

The store is read through `Store.array` and `Store.dict`, and the lemmas of this module say for each
operation what it does to these two views.
-/

namespace StackScript

/-- All arrays and dictionaries of a session. -/
structure Store where
  /-- the arrays, by place -/
  arrays : Array (Array Value)
  /-- the dictionaries, by place -/
  dicts : Array Dictionary

namespace Store

/-- The store in which nothing has been allocated. -/
def empty : Store :=
  ⟨#[], #[]⟩

/-! ## Reading -/

/-- The elements of an array. -/
def array (s : Store) (r : ArrayRef) : Array Value :=
  s.arrays[r.index]?.getD #[]

/-- The dictionary at a place. -/
def dict (s : Store) (r : DictRef) : Dictionary :=
  s.dicts[r.index]?.getD .empty

/-! ## Allocating -/

/-- A new array with the given elements. -/
def allocArray (s : Store) (items : Array Value) : ArrayRef × Store :=
  (⟨s.arrays.size⟩, { s with arrays := s.arrays.push items })

/-- A new dictionary. -/
def allocDict (s : Store) (d : Dictionary) : DictRef × Store :=
  (⟨s.dicts.size⟩, { s with dicts := s.dicts.push d })

/-! ## Writing -/

/-- Stores a value in one slot of an array. -/
def put (s : Store) (r : ArrayRef) (i : Nat) (v : Value) : Store :=
  { s with arrays := s.arrays.modify r.index fun items => items.setIfInBounds i v }

/-- Binds a name in a dictionary. -/
def bind (s : Store) (r : DictRef) (n : Name) (v : Value) : Store :=
  { s with dicts := s.dicts.modify r.index fun d => d.insert n v }

/-! ## What the operations do to the views -/

/-- Storing a value changes that slot of that array, if there is such a slot, and no other array. -/
theorem array_put (s : Store) (r t : ArrayRef) (i : Nat) (v : Value) :
    (s.put r i v).array t = if t = r then (s.array t).setIfInBounds i v else s.array t := by
  obtain ⟨m⟩ := r
  obtain ⟨n⟩ := t
  by_cases h : n = m
  · subst h
    rcases hcell : s.arrays[n]? with _ | items
    · simp [array, put, Array.getElem?_modify, hcell]
    · simp [array, put, Array.getElem?_modify, hcell]
  · have hne : ¬ m = n := fun heq => h heq.symm
    simp [array, put, Array.getElem?_modify, h, hne]

/-- Storing a value changes no dictionary. -/
@[simp] theorem dict_put (s : Store) (r : ArrayRef) (i : Nat) (v : Value) (t : DictRef) :
    (s.put r i v).dict t = s.dict t :=
  rfl

/-- Binding a name changes no array. -/
@[simp] theorem array_bind (s : Store) (r : DictRef) (n : Name) (v : Value) (t : ArrayRef) :
    (s.bind r n v).array t = s.array t :=
  rfl

/-- Binding a name changes that dictionary, if its place was handed out, and no other. -/
theorem dict_bind (s : Store) (r t : DictRef) (n : Name) (v : Value) :
    (s.bind r n v).dict t =
      if t = r ∧ r.index < s.dicts.size then (s.dict t).insert n v else s.dict t := by
  obtain ⟨m⟩ := r
  obtain ⟨k⟩ := t
  by_cases h : k = m
  · subst h
    by_cases hk : k < s.dicts.size
    · simp [dict, bind, hk, Array.getElem_modify]
    · simp [dict, bind, hk]
  · have hne : ¬ m = k := fun heq => h heq.symm
    simp [dict, bind, Array.getElem?_modify, h, hne]

/-- A new array is at its place, and every other one where it was. -/
theorem array_allocArray (s : Store) (items : Array Value) (t : ArrayRef) :
    (s.allocArray items).2.array t = if t = (s.allocArray items).1 then items else s.array t := by
  obtain ⟨k⟩ := t
  by_cases h : k = s.arrays.size
  · subst h
    simp [array, allocArray]
  · simp [array, allocArray, Array.getElem?_push, h]

/-- A new array changes no dictionary. -/
@[simp] theorem dict_allocArray (s : Store) (items : Array Value) (t : DictRef) :
    (s.allocArray items).2.dict t = s.dict t :=
  rfl

/-- A new dictionary changes no array. -/
@[simp] theorem array_allocDict (s : Store) (d : Dictionary) (t : ArrayRef) :
    (s.allocDict d).2.array t = s.array t :=
  rfl

/-- A new dictionary is at its place, and every other one where it was. -/
theorem dict_allocDict (s : Store) (d : Dictionary) (t : DictRef) :
    (s.allocDict d).2.dict t = if t = (s.allocDict d).1 then d else s.dict t := by
  obtain ⟨k⟩ := t
  by_cases h : k = s.dicts.size
  · subst h
    simp [dict, allocDict]
  · simp [dict, allocDict, Array.getElem?_push, h]

end Store

end StackScript

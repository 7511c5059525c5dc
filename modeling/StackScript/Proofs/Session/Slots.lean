import StackScript.Proofs.Session.Action

/-!
# Slots of arrays

An integer of 64 bits refers to a slot of an array if it is neither negative nor beyond the end
(`Store.HasSlot`), and `get` and `put` go by that: they read and write the slot, or refuse the
integer and change nothing. What `put` writes is one slot of one array. An array is a place in the
store, so it does not matter where a reference to it stands, on the stack, in another array, in a
dictionary, in a procedure or in the array itself: whoever reads the slot next reads what was
written (`Session.put_writes_one_slot`).
-/

namespace StackScript

variable {op : Operator} {r : ArrayRef} {i : Int64} {v : Value} {rest : Operands}

namespace Store

/-- Whether an integer is the index of a slot of an array. -/
def HasSlot (s : Store) (r : ArrayRef) (i : Int64) : Prop :=
  0 ≤ i.toInt ∧ i.toInt < (s.array r).size

instance (s : Store) (r : ArrayRef) (i : Int64) : Decidable (s.HasSlot r i) :=
  inferInstanceAs (Decidable (_ ∧ _))

variable {s : Store}

theorem HasSlot.lt_size (h : s.HasSlot r i) : i.toInt.toNat < (s.array r).size :=
  (Int.toNat_lt h.1).mpr h.2

/-- Different indices refer to different slots. -/
theorem HasSlot.toNat_inj {j : Int64} (hi : s.HasSlot r i) (hj : s.HasSlot r j) :
    j.toInt.toNat = i.toInt.toNat ↔ j = i := by
  rw [← Int64.toInt_inj, ← Int.toNat_of_nonneg hi.1, ← Int.toNat_of_nonneg hj.1, Int.toNat_natCast,
    Int.toNat_natCast, Int.natCast_inj]

/-- An array and an integer are an element if the integer is the index of a slot. -/
theorem element_int (s : Store) (op : Operator) (r : ArrayRef) (i : Int64) :
    s.element op (.array r) (.number (.int i)) =
      if s.HasSlot r i then .ok (r, i.toInt.toNat)
      else .error (.outOfRange op i.toInt (s.array r).size) :=
  rfl

/-- The slot that was written has the value, and the others have what they had. -/
theorem getElem?_put {k : Nat} (h : k < (s.array r).size) (v : Value) (l : Nat) :
    ((s.put r k v).array r)[l]? = if l = k then some v else (s.array r)[l]? := by
  rw [array_put, if_pos rfl, Array.getElem?_setIfInBounds]
  by_cases hl : l = k
  · rw [if_pos hl, if_pos hl.symm, if_pos h]
  · rw [if_neg hl, if_neg (Ne.symm hl)]

end Store

/-! ## The operators -/

section Machines

variable {m : Machine}

/-- `put` writes the slot that the integer refers to, if there is one. -/
theorem Machine.put_int (hops : m.operands = v :: .number (.int i) :: .array r :: rest) :
    m.put =
      if m.store.HasSlot r i then
        .ok { m with operands := .array r :: rest, store := m.store.put r i.toInt.toNat v }
      else .error (.outOfRange (.primitive .put) i.toInt (m.store.array r).size) := by
  rw [put, hops]
  dsimp only
  rw [Store.element_int]
  split <;> rfl

/-- `get` reads the slot that the integer refers to, if there is one. -/
theorem Primitive.apply_get_int (mode : Mode)
    (hops : m.operands = .number (.int i) :: .array r :: rest) :
    Primitive.get.apply mode m =
      if m.store.HasSlot r i then
        .ok { m with operands := ((m.store.array r)[i.toInt.toNat]?).toList ++ rest }
      else .error (.outOfRange (.primitive .get) i.toInt (m.store.array r).size) := by
  rw [apply, Machine.withTwo, hops]
  dsimp only
  rw [Store.element_int]
  split <;> rfl

end Machines

namespace Session

/-- `get` replaces the array and the integer by what is in the slot. -/
theorem call_get_of_getElem? {s : Session}
    (hops : s.operands = .number (.int i) :: .array r :: rest) (hslot : s.store.HasSlot r i)
    (hv : (s.store.array r)[i.toInt.toNat]? = some v) :
    s.call (.primitive .get) = (none, s.mapMachine fun m => { m with operands := v :: rest }) := by
  have hget := (Primitive.apply_get_int s.policy.mode (m := s.state.machine) hops).trans
    (if_pos hslot)
  rw [show (s.state.machine.store.array r)[i.toInt.toNat]? = some v from hv] at hget
  exact call_primitive_of_ok hget

/-- **One slot is written.** Let an array and an integer lie on the stack, and for `put` a value on
top of them. If the integer is the index of a slot:

* `put` leaves the array on what lies beneath, and of the rest of the session it changes the store
  only: the slot has the value, and every other slot of the array, every other array and every
  dictionary is as before;
* from then on, as long as the array is not written again, `get` finds the value in that slot and
  the old element in every other, whichever reference to the array it is given.

If it is not, negative or not below the length, `put` and `get` both answer with this integer and
this length, and change nothing. -/
theorem put_writes_one_slot (s : Session) (r : ArrayRef) (i : Int64) (rest : Operands) :
    (∀ v, s.operands = v :: .number (.int i) :: .array r :: rest → s.store.HasSlot r i →
      ∃ store, s.call (.primitive .put) =
          (none, s.mapMachine fun m => { m with operands := .array r :: rest, store := store }) ∧
        (∀ k, (store.array r)[k]? =
          if k = i.toInt.toNat then some v else (s.store.array r)[k]?) ∧
        (∀ t, t ≠ r → store.array t = s.store.array t) ∧
        (∀ t, store.dict t = s.store.dict t) ∧
        ∀ (u : Session) (j : Int64) (beneath : Operands), u.store.array r = store.array r →
          u.operands = .number (.int j) :: .array r :: beneath → s.store.HasSlot r j →
          ∃ w, u.call (.primitive .get) =
              (none, u.mapMachine fun m => { m with operands := w :: beneath }) ∧
            if j = i then w = v else (s.store.array r)[j.toInt.toNat]? = some w) ∧
    (∀ v, s.operands = v :: .number (.int i) :: .array r :: rest → ¬ s.store.HasSlot r i →
      s.call (.primitive .put) =
        (some (.outOfRange (.primitive .put) i.toInt (s.store.array r).size), s)) ∧
    (s.operands = .number (.int i) :: .array r :: rest → ¬ s.store.HasSlot r i →
      s.call (.primitive .get) =
        (some (.outOfRange (.primitive .get) i.toInt (s.store.array r).size), s)) := by
  refine ⟨fun v hops hslot => ?_, fun v hops hslot => ?_, fun hops hslot => ?_⟩
  · have hput := (Machine.put_int (m := s.state.machine) hops).trans (if_pos hslot)
    have hslots := Store.getElem?_put hslot.lt_size v
    refine ⟨s.store.put r i.toInt.toNat v, call_primitive_of_ok hput, hslots, fun t ht => ?_,
      fun t => rfl, fun u j beneath harray hu hj => ?_⟩
    · rw [Store.array_put, if_neg ht]
    · have hsize : (u.store.array r).size = (s.store.array r).size := by
        rw [harray, Store.array_put, if_pos rfl, Array.size_setIfInBounds]
      have hju : u.store.HasSlot r j := by rwa [Store.HasSlot, hsize]
      obtain ⟨w, hw⟩ : ∃ w, (u.store.array r)[j.toInt.toNat]? = some w :=
        ⟨_, Array.getElem?_eq_getElem hju.lt_size⟩
      refine ⟨w, call_get_of_getElem? hu hju hw, ?_⟩
      rw [harray, hslots] at hw
      by_cases hji : j = i
      · rw [if_pos ((hslot.toNat_inj hj).mpr hji)] at hw
        rw [if_pos hji, Option.some.inj hw]
      · rw [if_neg (mt (hslot.toNat_inj hj).mp hji)] at hw
        rwa [if_neg hji]
  · have hput := Machine.put_int (m := s.state.machine) hops
    exact call_primitive_of_error (hput.trans (if_neg hslot))
  · have hget := Primitive.apply_get_int s.policy.mode (m := s.state.machine) hops
    exact call_primitive_of_error (hget.trans (if_neg hslot))

/-- An array that is stored in itself: the reference that was beneath gets to see it in the second
slot, and in the first what was there before. There is no slot before the first. -/
theorem put_writes_one_slot_of_cycle :
    let int n := Value.number (.int n)
    let s := (fresh .standard .silent).performAll
      [.arrange fun store => (store.allocArray #[int 7, int 8]).2, .push (.array ⟨0⟩),
        .push (.array ⟨0⟩), .push (int 1), .push (.array ⟨0⟩)]
    let t := (s.call (.primitive .put)).2.pop.2
    let before := t.push (int (-1))
    s.store.HasSlot ⟨0⟩ 1 ∧ t.operands = [.array ⟨0⟩] ∧
      ((t.push (int 1)).call (.primitive .get)).2.operands = [.array ⟨0⟩] ∧
      ((t.push (int 0)).call (.primitive .get)).2.operands = [int 7] ∧
      before.call (.primitive .get) =
        (some (.outOfRange (.primitive .get) (-1) 2), before) := by
  intro int s t before
  have hslot : s.store.HasSlot ⟨0⟩ 1 := by decide
  obtain ⟨hput, -, -⟩ := put_writes_one_slot s ⟨0⟩ 1 [.array ⟨0⟩]
  obtain ⟨store, hcall, -, -, -, hget⟩ := hput (.array ⟨0⟩) rfl hslot
  have ht : t = s.mapMachine fun m => { m with operands := [.array ⟨0⟩], store := store } := by
    change (s.call (.primitive .put)).2.pop.2 = _
    rw [hcall]
    rfl
  obtain ⟨w, hone, rfl⟩ := hget (t.push (int 1)) 1 [] (by rw [ht]; rfl) (by rw [ht]; rfl) hslot
  obtain ⟨x, hzero, hx⟩ := hget (t.push (int 0)) 0 [] (by rw [ht]; rfl) (by rw [ht]; rfl)
    (by decide)
  obtain rfl : int 7 = x := Option.some.inj hx
  refine ⟨hslot, by rw [ht]; rfl, by rw [hone]; rfl, by rw [hzero]; rfl, ?_⟩
  exact (put_writes_one_slot before ⟨0⟩ (-1) []).2.2 rfl (by decide)

end Session

end StackScript

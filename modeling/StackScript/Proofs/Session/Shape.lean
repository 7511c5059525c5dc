import StackScript.Proofs.Session.Writing

/-!
# The shape of the store

What is in a place of the store changes, but not how much fits there: an array has the length with
which it was made, and a name that a dictionary binds is bound in it for good, if not to the same
value (`Store.KeepsShape`). `put` looks for its slot before it writes and `def` replaces or adds, so
single steps of a run keep the shape of everything that was handed out, whichever of its aliases is
used, and so does loading a program, which only hands out more. Hence so do runs, at every point and
wherever they end (`Session.keepsShape_of_visits`).
-/

namespace StackScript

/-! ## Changes that keep the shape -/

namespace Store

/-- Every array that was handed out has the same length in another store, and every dictionary that
was handed out binds at least the same names there. -/
structure KeepsShape (s s' : Store) : Prop where
  /-- no place is taken back -/
  has : ∀ {c : Cell}, s.Has c → s'.Has c
  /-- an array keeps its length -/
  size_array : ∀ {r : ArrayRef}, s.Has (.array r) → (s'.array r).size = (s.array r).size
  /-- a dictionary keeps the names that it binds -/
  binds : ∀ {r : DictRef} {n : Name}, s.Has (.dict r) → ((s.dict r).get? n).isSome = true →
    ((s'.dict r).get? n).isSome = true

namespace KeepsShape

variable {s s' s'' : Store}

theorem refl (s : Store) : s.KeepsShape s :=
  ⟨id, fun _ => rfl, fun _ hn => hn⟩

theorem trans (h₁ : s.KeepsShape s') (h₂ : s'.KeepsShape s'') : s.KeepsShape s'' where
  has hc := h₂.has (h₁.has hc)
  size_array hr := (h₂.size_array (h₁.has hr)).trans (h₁.size_array hr)
  binds hr hn := h₂.binds (h₁.has hr) (h₁.binds hr hn)

/-- Where nothing is changed that was there before, everything keeps its shape. -/
theorem of_changesOnly (h : s.ChangesOnly s' ∅) : s.KeepsShape s' where
  has := h.has
  size_array {r} hr := by
    have hagrees : s'.array r = s.array r := h.agrees hr (Set.notMem_empty _)
    rw [hagrees]
  binds {r n} hr hn := by
    have hagrees : s'.dict r = s.dict r := h.agrees hr (Set.notMem_empty _)
    rwa [hagrees]

/-- Storing a value in a slot adds no slot and removes none. -/
theorem put (s : Store) (r : ArrayRef) (i : Nat) (v : Value) : s.KeepsShape (s.put r i v) where
  has := (ChangesOnly.put (Set.mem_univ _) i v).has
  size_array {t} _ := by
    rw [array_put]
    split
    · exact Array.size_setIfInBounds
    · rfl
  binds _ hn := hn

/-- Binding a name unbinds no other. -/
theorem bind (s : Store) (r : DictRef) (n : Name) (v : Value) : s.KeepsShape (s.bind r n v) where
  has := (ChangesOnly.bind (Set.mem_univ _) n v).has
  size_array _ := rfl
  binds {t m} _ hm := by
    rw [dict_bind]
    split
    · rw [Dictionary.get?_insert]
      split
      · rfl
      · exact hm
    · exact hm

/-- A definition binds a name in a frame, or makes a frame for it. -/
theorem define {sc scopes : Scopes} {name : Name} {v : Value}
    (h : sc.define s name v = .ok (scopes, s')) : s.KeepsShape s' := by
  obtain ⟨-, ⟨-, -, rfl⟩ | ⟨frame, -, -, -, rfl⟩⟩ := Scopes.define_eq_ok h
  · exact of_changesOnly (.allocDict s _ ∅)
  · exact .bind s frame name v

end KeepsShape

end Store

/-- A primitive keeps the shape of the store. -/
theorem Primitive.Effect.keepsShape {m after : Machine} (h : Primitive.Effect m after) :
    m.store.KeepsShape after.store := by
  cases h with
  | operands sink _ => exact .refl _
  | put _ _ => exact .put _ _ _ _
  | dict _ => exact .of_changesOnly (.allocDict _ _ ∅)
  | beginScope _ => exact .refl _
  | endScope _ => exact .refl _
  | define _ hdefine => exact .define hdefine

/-- So does a single step of a run. -/
theorem Machine.Step.keepsShape {m after : Machine} (h : m.Step after) :
    m.store.KeepsShape after.store := by
  cases h with
  | refl => exact .refl _
  | primitive heffect => exact heffect.keepsShape
  | control _ => exact .refl _
  | push v => exact .refl _

/-! ## Runs -/

namespace Session

/-- Single steps of a run, and loading a program, keep the shape that the store had once. -/
theorem kept_keepsShape (s : Store) : Kept fun m => s.KeepsShape m.store where
  step hstep h := h.trans hstep.keepsShape
  load program h := h.trans (.of_changesOnly (Term.changesOnly_loadAll _ program.items ∅))

/-- **Runs keep the shape of the store.** At no point of a run, neither on the way nor where it ends
or is stopped, has an array that was there before another length than before, and no dictionary that
was there before has lost a name that it bound. -/
theorem keepsShape_of_visits {s t : Session} {a : Action} (ha : a.isRun = true)
    (hvisits : Visits s [a] t) : s.store.KeepsShape t.store := by
  rcases machine_of_visits ha hvisits with hsame | ⟨c, n, hstart, hmachine⟩
  · rw [store, store, hsame]
    exact .refl _
  · rw [store, store, hmachine]
    exact (kept_keepsShape s.store).during hstart (.refl _) n

/-- A run that stores an array in itself and binds its name anew, and is then stopped. -/
theorem keepsShape_of_visits_of_aborted :
    let s := (fresh .standard .silent).performAll
      [.arrange fun store => (store.allocArray #[.number (.int 1), .number (.int 2)]).2,
        .define ⟨"/p"⟩ (.array ⟨0⟩)]
    let source := "p 1 p put /p exch def end end"
    let after := s.perform (.run source)
    (Action.run source).isRun = true ∧ Visits s [.run source] after ∧
      (s.run source).1 = some (.aborted .noScope) ∧ s.store.KeepsShape after.store ∧
      (after.store.array ⟨0⟩).size = 2 ∧ ((after.store.dict ⟨0⟩).get? ⟨"/p"⟩).isSome = true := by
  intro s source after
  have hvisits : Visits s [.run source] after := .after .here
  have hshape := keepsShape_of_visits rfl hvisits
  exact ⟨rfl, hvisits, by decide +kernel, hshape, hshape.size_array Nat.zero_lt_one,
    hshape.binds Nat.zero_lt_one rfl⟩

end Session

end StackScript

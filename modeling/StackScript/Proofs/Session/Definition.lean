import StackScript.Proofs.Session.Writing

/-!
# Definitions along the scopes

A definition goes into the innermost frame, and looking a name up begins there. So what was defined
is found under its bare name, whatever the frames further out bind, and under every other name there
is what was there before. Frames are references, and the innermost one may stand further out once
more; but a definition changes one binding of its dictionary only, and no look-up of another name
gets to see that, wherever the dictionary stands (`Scopes.lookup?_define_of_ne`).

A frame that is entered hides bindings of the frames around it and changes none. What is defined
while it is the innermost one goes into it, and when it is left, every name means again what it
meant before, unless the frame was on the stack already (`Session.names_follow_scopes`).
-/

namespace StackScript

variable {store store' : Store} {n : Name} {v : Value}

/-! ## Bindings -/

namespace Store

/-- A name that is bound in a dictionary has the value there. -/
theorem get?_bind_self {r : DictRef} (hr : store.Has (.dict r)) :
    ((store.bind r n v).dict r).get? n = some v := by
  rw [dict_bind, if_pos ⟨rfl, hr⟩, Dictionary.get?_insert, if_pos rfl]

/-- Binding a name changes no binding of another, in whatever dictionary. -/
theorem get?_bind_of_ne {m : Name} (hne : m ≠ n) (r t : DictRef) :
    ((store.bind r n v).dict t).get? m = (store.dict t).get? m := by
  rw [dict_bind]
  split
  · rw [Dictionary.get?_insert, if_neg hne]
  · rfl

end Store

/-! ## Looking up -/

namespace Scopes

variable {sc scopes : Scopes} {bare : String} {frame : DictRef}

/-- A name means the same if no frame binds it otherwise. -/
theorem lookup?_congr
    (h : ∀ frame ∈ sc.frames,
      (store'.dict frame).get? (.literal bare) = (store.dict frame).get? (.literal bare)) :
    sc.lookup? store' bare = sc.lookup? store bare := by
  obtain ⟨frames, floor⟩ := sc
  unfold lookup?
  induction frames with
  | nil => rfl
  | cons frame outer ih =>
    obtain ⟨hframe, houter⟩ := List.forall_mem_cons.mp h
    rw [List.findSome?_cons, List.findSome?_cons, hframe, ih houter]

/-- What the innermost frame binds is found. -/
theorem lookup?_of_top {outer : List DictRef} (hframes : sc.frames = frame :: outer)
    (hbound : (store.dict frame).get? (.literal bare) = some v) :
    sc.lookup? store bare = some v := by
  rw [lookup?, hframes, List.findSome?_cons, hbound]

/-! ## Defining -/

/-- What was defined is found under its bare name. -/
theorem lookup?_define (hplace : ∀ frame ∈ sc.top?, store.Has (.dict frame))
    (h : sc.define store n v = .ok (scopes, store')) :
    scopes.lookup? store' n.bare = some v := by
  obtain ⟨hname, hcases⟩ := define_eq_ok h
  have hliteral := Name.literal_bare (Name.isLiteral_of_isDefinable hname)
  rcases hcases with ⟨hframes, rfl, rfl⟩ | ⟨frame, outer, hframes, rfl, rfl⟩
  · refine lookup?_of_top rfl ?_
    rw [hliteral, Store.dict_allocDict, if_pos rfl, Dictionary.get?_insert, if_pos rfl]
  · have hplace := hplace frame (List.head?_eq_some_iff.mpr ⟨outer, hframes⟩)
    refine lookup?_of_top hframes ?_
    rw [hliteral, Store.get?_bind_self hplace]

/-- Under every other name there is what was there before. -/
theorem lookup?_define_of_ne (h : sc.define store n v = .ok (scopes, store'))
    (hne : bare ≠ n.bare) : scopes.lookup? store' bare = sc.lookup? store bare := by
  obtain ⟨hname, hcases⟩ := define_eq_ok h
  have hliteral : Name.literal bare ≠ n := by
    rw [← Name.literal_bare (Name.isLiteral_of_isDefinable hname)]
    exact fun heq => hne (Name.literal_injective heq)
  rcases hcases with ⟨hframes, rfl, rfl⟩ | ⟨frame, outer, hframes, rfl, rfl⟩
  · -- the one frame there is now binds nothing else, and before there was none
    have hnone : ((store.allocDict (Dictionary.empty.insert n v)).2.dict
        (store.allocDict (Dictionary.empty.insert n v)).1).get? (.literal bare) = none := by
      rw [Store.dict_allocDict, if_pos rfl, Dictionary.get?_insert, if_neg hliteral,
        Dictionary.get?_empty]
    rw [lookup?, lookup?, push, hframes, List.findSome?_cons, hnone]
    rfl
  · exact lookup?_congr fun t _ => Store.get?_bind_of_ne hliteral frame t

/-- A definition makes the first frame, and no other. -/
theorem depth_define (h : sc.define store n v = .ok (scopes, store')) :
    scopes.depth = if sc.depth = 0 then 1 else sc.depth := by
  obtain ⟨-, ⟨hframes, rfl, -⟩ | ⟨frame, outer, hframes, rfl, -⟩⟩ := define_eq_ok h
  · simp [depth, push, hframes]
  · simp [depth, hframes]

/-- Where there is a frame, a definition leaves the frames as they are and writes the innermost one
only. -/
theorem define_of_top {outer : List DictRef} (hframes : sc.frames = frame :: outer)
    (h : sc.define store n v = .ok (scopes, store')) :
    scopes = sc ∧ ∀ t, t ≠ frame → store'.dict t = store.dict t := by
  obtain ⟨-, ⟨hnone, -, -⟩ | ⟨top, rest, htop, rfl, rfl⟩⟩ := define_eq_ok h
  · cases hframes.symm.trans hnone
  · obtain ⟨rfl, -⟩ := List.cons.inj (hframes.symm.trans htop)
    refine ⟨rfl, fun t ht => ?_⟩
    rw [Store.dict_bind, if_neg fun h => ht h.1]

/-- A frame that was entered can be left again, if the floor was under the frames before. -/
theorem pop?_push (hfloor : sc.floor ≤ sc.depth) (frame : DictRef) :
    (sc.push frame).pop? = some (frame, sc) :=
  pop?_eq_some_iff.mpr ⟨rfl, rfl, Nat.lt_succ_of_le hfloor⟩

end Scopes

namespace Session

variable {s : Session} {frame : DictRef}

/-- What the frames bind is what a host finds. -/
theorem lookup_of_lookup? {bare : String} (h : s.scopes.lookup? s.store bare = some v) :
    s.lookup bare = .ok v := by
  rw [lookup, h]

/-- What a host defines within a frame is written there, and nowhere else. -/
theorem performAll_define {outer : List DictRef} (hframes : s.scopes.frames = frame :: outer)
    (bindings : List (Name × Value)) :
    let after := s.performAll (bindings.map fun b => .define b.1 b.2)
    after.scopes = s.scopes ∧ ∀ t, t ≠ frame → after.store.dict t = s.store.dict t := by
  induction bindings generalizing s with
  | nil => exact ⟨rfl, fun _ _ => rfl⟩
  | cons binding rest ih =>
    obtain ⟨n, v⟩ := binding
    have hone : (s.define n v).2.scopes = s.scopes ∧
        ∀ t, t ≠ frame → (s.define n v).2.store.dict t = s.store.dict t := by
      rw [define]
      rcases hdefine : s.scopes.define s.store n v with f | ⟨scopes, store⟩
      · exact ⟨rfl, fun _ _ => rfl⟩
      · exact Scopes.define_of_top hframes hdefine
    obtain ⟨hscopes, hdicts⟩ := hone
    obtain ⟨hscopes', hdicts'⟩ := ih (hscopes ▸ hframes)
    exact ⟨hscopes'.trans hscopes, fun t ht => (hdicts' t ht).trans (hdicts t ht)⟩

/-- **Names follow the scopes.** In every session whose floor is under the frames, where the
innermost frame, if there is one, is at a place that was handed out:

* after a name that may be defined is defined, its bare form means the value, every other name means
  what it meant before, and there are as many frames as before, but for the first one, which is made
  where there was none;
* a name that may not be defined is refused, and the session is as it was;
* if a frame is entered that is not on the stack, any definitions are made, and then a frame is
  left, it is this one, the frames are those from before, and every name means what it meant. -/
theorem names_follow_scopes (s : Session) (hfloor : s.scopes.floor ≤ s.scopes.depth)
    (hplace : ∀ frame ∈ s.scopes.top?, s.store.Has (.dict frame)) :
    (∀ n v, n.isDefinable = true → ∃ t, s.define n v = (none, t) ∧ t.lookup n.bare = .ok v ∧
      (∀ bare, bare ≠ n.bare → t.lookup bare = s.lookup bare) ∧
      t.scopes.depth = if s.scopes.depth = 0 then 1 else s.scopes.depth) ∧
    (∀ n v, n.isDefinable = false → s.define n v = (some (.invalidName n), s)) ∧
    ∀ (frame : DictRef) (bindings : List (Name × Value)), frame ∉ s.scopes.frames →
      let entered := s.mapMachine fun m => { m with scopes := m.scopes.push frame }
      let inner := entered.performAll (bindings.map fun b => .define b.1 b.2)
      inner.scopes.pop? = some (frame, s.scopes) ∧
        ∀ bare, s.scopes.lookup? inner.store bare = s.scopes.lookup? s.store bare := by
  refine ⟨fun n v hname => ?_, fun n v hname => ?_, fun frame bindings hframe => ?_⟩
  · rcases hdefine : s.scopes.define s.store n v with f | ⟨scopes, store⟩
    · exact absurd hdefine (Scopes.define_ne_error hname)
    refine ⟨s.mapMachine fun m => { m with scopes := scopes, store := store }, ?_, ?_, ?_, ?_⟩
    · rw [define, hdefine]
    · exact lookup_of_lookup? (Scopes.lookup?_define hplace hdefine)
    · intro bare hne
      have hsame := Scopes.lookup?_define_of_ne hdefine hne
      rw [lookup, lookup, ← hsame]
      rfl
    · exact Scopes.depth_define hdefine
  · have hrefused : s.scopes.define s.store n v = .error (.invalidName n) := by
      rw [Scopes.define, hname, if_neg Bool.false_ne_true]
    rw [define, hrefused]
  · intro entered inner
    obtain ⟨hscopes, hdicts⟩ := performAll_define (s := entered) rfl bindings
    refine ⟨?_, fun bare => Scopes.lookup?_congr fun t ht => ?_⟩
    · change inner.scopes = s.scopes.push frame at hscopes
      rw [hscopes, Scopes.pop?_push hfloor]
    · have hne : t ≠ frame := by
        rintro rfl
        exact hframe ht
      exact congrArg (·.get? (.literal bare)) (hdicts t hne)

/-- A dictionary that is the innermost frame and the outermost one, and a frame that hides one of
its bindings for a while. -/
theorem names_follow_scopes_of_repeated :
    let int n := Value.number (.int n)
    let s : Session := ⟨.standard, ⟨⟨[], ⟨[⟨0⟩, ⟨1⟩, ⟨0⟩], 1⟩,
      ⟨#[], #[.ofList [(⟨"/a"⟩, int 1)], .ofList [(⟨"/b"⟩, int 2)], .empty]⟩, .silent⟩, #[], 0⟩⟩
    let inner := (s.mapMachine fun m => { m with scopes := m.scopes.push ⟨2⟩ }).performAll
      [.define ⟨"/a"⟩ (.bool true), .define ⟨"/1"⟩ (.bool false)]
    s.scopes.floor ≤ s.scopes.depth ∧ (∀ frame ∈ s.scopes.top?, s.store.Has (.dict frame)) ∧
      (∃ t, s.define ⟨"/b"⟩ (.bool true) = (none, t) ∧ t.lookup "b" = .ok (.bool true) ∧
        t.lookup "a" = s.lookup "a") ∧
      s.define ⟨"/1"⟩ (.bool false) = (some (.invalidName ⟨"/1"⟩), s) ∧
      inner.lookup "a" = .ok (.bool true) ∧ inner.scopes.pop? = some (⟨2⟩, s.scopes) ∧
      s.scopes.lookup? inner.store "a" = some (int 1) := by
  intro int s inner
  have hfloor : s.scopes.floor ≤ s.scopes.depth := by decide
  have hplace : ∀ frame ∈ s.scopes.top?, s.store.Has (.dict frame) := by
    rintro frame ⟨⟩
    exact Nat.succ_pos 2
  obtain ⟨hdefine, hrefuse, henter⟩ := names_follow_scopes s hfloor hplace
  obtain ⟨t, ht, hfound, hother, -⟩ := hdefine ⟨"/b"⟩ (.bool true) (by decide)
  obtain ⟨hpop, hsame⟩ := henter ⟨2⟩ [(⟨"/a"⟩, .bool true), (⟨"/1"⟩, .bool false)] (by decide)
  exact ⟨hfloor, hplace, ⟨t, ht, hfound, hother "a" (by decide)⟩,
    hrefuse ⟨"/1"⟩ (.bool false) (by decide), rfl, hpop, (hsame "a").trans rfl⟩

end Session

end StackScript

import StackScript.Proofs.Session.Scope

/-!
# Resetting within a scope

A reset clears the frames and leaves the floor where it is. Outside every scope of the host the
floor is at zero and that is all there is to it. Within a scope the frames that the floor was put
above are gone, and then the floor is above all that is there. As many frames have to be entered
again before one can be left, so that an `end` does not undo the `begin` before it; and the scope,
when it is closed, counts frames that were pushed since as if they were the ones from before.

So a host that resets outside scopes only finds the floor under the frames at every point, and no
other host does (`floor_le_depth_iff`); and a scope leaves no frame behind, unless it is reset
within and something was there before it (`frames_escape_by_reset`).
-/

namespace StackScript

namespace Session

/-! ## The floor -/

section Floor

variable {m after : Machine}

/-- Single steps of a run leave the floor where it is. -/
theorem floor_of_step (h : m.Step after) : after.scopes.floor = m.scopes.floor := by
  cases h with
  | refl | control | push => rfl
  | primitive heffect =>
    cases heffect with
    | operands | put | dict | beginScope => rfl
    | endScope hpop => exact (Scopes.pop?_eq_some_iff.mp hpop).2.1
    | define _ hdefine =>
      obtain ⟨-, ⟨-, rfl, -⟩ | ⟨frame, outer, -, rfl, -⟩⟩ := Scopes.define_eq_ok hdefine <;> rfl

/-- Runs leave the floor where it is. -/
theorem kept_floor (floor : Nat) : Kept fun m => m.scopes.floor = floor where
  step hstep h := (floor_of_step hstep).trans h
  load _ h := h

/-- Whatever a host does leaves the floor where it is; a scope puts it back. -/
theorem floor_perform (s : Session) (a : Action) :
    (s.perform a).scopes.floor = s.scopes.floor := by
  cases a with
  | run source =>
    rcases hstart : (Action.run source).start? s with _ | c
    · rw [perform_run_of_start? hstart]
    · exact (kept_floor _).perform hstart rfl
  | execute items => exact (kept_floor _).perform (a := .execute items) rfl rfl
  | call op => exact (kept_floor _).perform (a := .call op) rfl rfl
  | pop =>
    rw [perform, pop]
    split <;> rfl
  | define name v =>
    rw [perform, define]
    rcases hdefine : s.scopes.define s.store name v with f | ⟨scopes, store⟩
    · rfl
    · obtain ⟨-, ⟨-, rfl, -⟩ | ⟨frame, outer, -, rfl, -⟩⟩ := Scopes.define_eq_ok hdefine <;> rfl
  | _ => rfl

end Floor

variable {s t : Session} {actions : List Action}

/-- The outermost frames, as many as the floor is above. -/
def guarded (s : Session) : List DictRef :=
  s.scopes.frames.drop (s.scopes.depth - s.scopes.floor)

/-- A floor that is under the frames guards as many of them. -/
theorem guards_guarded (s : Session) : s.scopes.Guards s.guarded where
  suffix := List.drop_suffix _ _
  floor := by
    rw [guarded, List.length_drop, ← Scopes.depth]
    omega

/-- While these frames are there the floor is under the frames. -/
theorem floor_le_depth_of_guards {sc : Scopes} (h : s.scopes.floor ≤ s.scopes.depth)
    (hguards : sc.Guards s.guarded) (hfloor : sc.floor = s.scopes.floor) :
    sc.floor ≤ sc.depth := by
  have hlength := hguards.suffix.length_le
  rw [guarded, List.length_drop, ← Scopes.depth, ← Scopes.depth] at hlength
  omega

/-- Where the session is not reset, the floor stays under the frames at every point. -/
theorem floor_le_depth_of_visits (hvisits : Visits s actions t)
    (hactions : Action.areResetFree actions = true) (h : s.scopes.floor ≤ s.scopes.depth) :
    t.scopes.floor ≤ t.scopes.depth := by
  induction hvisits with
  | here => exact h
  | @during s _ _ _ hstart n =>
    exact floor_le_depth_of_guards h ((kept_guards _).during hstart s.guards_guarded n)
      ((kept_floor _).during hstart rfl n)
  | inside _ ih =>
    obtain ⟨hinner, -⟩ := (Bool.and_eq_true _ _).mp hactions
    exact ih hinner (Nat.le_refl _)
  | @after s _ a _ _ ih =>
    obtain ⟨ha, hrest⟩ := (Bool.and_eq_true _ _).mp hactions
    exact ih hrest (floor_le_depth_of_guards h (guards_perform s a ha s.guards_guarded)
      (floor_perform s a))

/-- Where the floor is above some frames and the session is reset, there is a point at which it is
above all of them. -/
theorem exists_depth_lt_floor (s : Session) (actions : List Action)
    (hactions : Action.areResetFree actions = false) (h : 0 < s.scopes.floor) :
    ∃ t, Visits s actions t ∧ t.scopes.depth < t.scopes.floor := by
  cases actions with
  | nil => cases hactions
  | cons a rest =>
    rcases ha : a.isResetFree with _ | _
    · cases a with
      | reset => exact ⟨s.reset, .after .here, h⟩
      | scope frame inner =>
        obtain ⟨t, hvisits, hlt⟩ :=
          exists_depth_lt_floor (s.openScope frame).2 inner ha (Nat.succ_pos _)
        exact ⟨t, .inside hvisits, hlt⟩
      | _ => cases ha
    · rw [Action.areResetFree, ha, Bool.true_and] at hactions
      obtain ⟨t, hvisits, hlt⟩ :=
        exists_depth_lt_floor (s.perform a) rest hactions (by rwa [floor_perform])
      exact ⟨t, .after hvisits, hlt⟩

/-- Whether the session is not reset within a scope. -/
def Action.resetOutside : List Action → Bool
  | [] => true
  | .scope _ inner :: rest => areResetFree inner && resetOutside rest
  | _ :: rest => resetOutside rest

/-- Outside every scope the floor is at zero. If the session is reset there only, the floor is under
the frames at every point. -/
theorem floor_le_depth_of_resetOutside (hvisits : Visits s actions t)
    (hactions : Action.resetOutside actions = true) (h : s.scopes.floor = 0) :
    t.scopes.floor ≤ t.scopes.depth := by
  induction hvisits with
  | here => exact Nat.le_trans (Nat.le_of_eq h) (Nat.zero_le _)
  | during hstart n =>
    exact Nat.le_trans (Nat.le_of_eq ((kept_floor 0).during hstart h n)) (Nat.zero_le _)
  | inside hvisits _ =>
    obtain ⟨hinner, -⟩ := (Bool.and_eq_true _ _).mp hactions
    exact floor_le_depth_of_visits hvisits hinner (Nat.le_refl _)
  | @after s _ a rest _ ih =>
    have hrest : Action.resetOutside rest = true := by
      cases a with
      | scope frame inner => exact ((Bool.and_eq_true _ _).mp hactions).2
      | _ => exact hactions
    exact ih hrest (by rwa [floor_perform])

/-- If the session is reset within a scope, there is a point at which the floor is above all
frames. -/
theorem exists_depth_lt_floor_of_resetOutside (s : Session) (actions : List Action)
    (hactions : Action.resetOutside actions = false) :
    ∃ t, Visits s actions t ∧ t.scopes.depth < t.scopes.floor := by
  induction actions generalizing s with
  | nil => cases hactions
  | cons a rest ih =>
    have hlater (hrest : Action.resetOutside rest = false) :
        ∃ t, Visits s (a :: rest) t ∧ t.scopes.depth < t.scopes.floor := by
      obtain ⟨t, hvisits, hlt⟩ := ih (s.perform a) hrest
      exact ⟨t, .after hvisits, hlt⟩
    cases a with
    | scope frame inner =>
      rcases hinner : Action.areResetFree inner with _ | _
      · obtain ⟨t, hvisits, hlt⟩ :=
          exists_depth_lt_floor (s.openScope frame).2 inner hinner (Nat.succ_pos _)
        exact ⟨t, .inside hvisits, hlt⟩
      · rw [Action.resetOutside, hinner, Bool.true_and] at hactions
        exact hlater hactions
    | _ => exact hlater hactions

/-- The frame that `begin` has pushed is left by `end` if the floor was under the frames before, and
otherwise `end` finds no scope to leave. -/
theorem call_endScope_of_beginScope (s : Session) (frame : DictRef) :
    let begun := (s.push (.dict frame)).perform (.call (.primitive .beginScope))
    begun.call (.primitive .endScope) =
      if s.scopes.floor ≤ s.scopes.depth then (none, s) else (some .noScope, begun) := by
  intro begun
  have hpop : begun.state.machine.scopes.pop? =
      if s.scopes.depth + 1 ≤ s.scopes.floor then none else some (frame, s.scopes) :=
    rfl
  rw [call, StackScript.call, invoke_primitive, Primitive.apply, Machine.endScope, hpop]
  by_cases h : s.scopes.floor ≤ s.scopes.depth
  · rw [if_pos h, if_neg (Nat.not_le_of_lt (Nat.lt_succ_of_le h))]
    rfl
  · rw [if_neg h, if_pos (Nat.succ_le_of_lt (Nat.lt_of_not_le h))]
    rfl

/-- **The floor stays under the frames for hosts that reset outside scopes only**, and for no
others. What depends on it is that a frame can be left again: an `end` right after a `begin` that
has pushed a frame undoes it, if the floor is under the frames, and otherwise is refused as if there
were no scope to leave. -/
theorem floor_le_depth_iff (policy : Policy) (sink : Sink) (actions : List Action) :
    ((∀ t, Visits (fresh policy sink) actions t → t.scopes.floor ≤ t.scopes.depth) ↔
      Action.resetOutside actions = true) ∧
      ∀ (s : Session) (frame : DictRef),
        let begun := (s.push (.dict frame)).perform (.call (.primitive .beginScope))
        begun.call (.primitive .endScope) =
          if s.scopes.floor ≤ s.scopes.depth then (none, s) else (some .noScope, begun) := by
  refine ⟨⟨fun h => ?_, fun hactions t hvisits => ?_⟩, call_endScope_of_beginScope⟩
  · by_contra hnot
    obtain ⟨t, hvisits, hlt⟩ := exists_depth_lt_floor_of_resetOutside (fresh policy sink) actions
      ((Bool.not_eq_true _).mp hnot)
    exact Nat.not_le_of_lt hlt (h t hvisits)
  · exact floor_le_depth_of_resetOutside hvisits hactions rfl

/-- So it is not true that the floor is under the frames at every point. After a reset within a
scope it is above them, and then an `end` does not undo the `begin` before it. -/
theorem not_floor_le_depth :
    let t := ((fresh .standard .silent).openScope ⟨0⟩).2.reset
    Visits (fresh .standard .silent) [.scope ⟨0⟩ [.reset]] t ∧
      ¬ t.scopes.floor ≤ t.scopes.depth ∧
      (((t.push (.dict ⟨0⟩)).perform (.call (.primitive .beginScope))).call
        (.primitive .endScope)).1 = some .noScope :=
  ⟨.inside (.after .here), by decide, rfl⟩

/-! ## Frames that escape -/

/-- A scope leaves no frame behind if the session is not reset within it, or if there was no frame
before it. -/
theorem frames_suffix_of_scope (s : Session) (frame : DictRef) (inner : List Action)
    (h : Action.areResetFree inner = true ∨ s.scopes.frames = []) :
    (s.perform (.scope frame inner)).scopes.frames <:+ s.scopes.frames := by
  rcases h with hinner | hframes
  · have hclosed : (s.perform (.scope frame inner)).scopes = s.scopes :=
      scopes_closeScope (guards_performAll _ inner hinner (guards_openScope s frame))
    exact hclosed ▸ List.suffix_rfl
  · -- the frames are cut back to none
    have hlength : (s.perform (.scope frame inner)).scopes.frames.length ≤ s.scopes.depth :=
      Scopes.depth_truncate_le ((s.openScope frame).2.performAll inner).scopes s.scopes.depth
    rw [Scopes.depth, hframes, List.length_nil, Nat.le_zero] at hlength
    rw [List.eq_nil_of_length_eq_zero hlength]
    exact List.nil_suffix

/-- What is bound in none of the frames from before is not found in frames from before. -/
theorem lookup_of_suffix {bare : String} (hsuffix : t.scopes.frames <:+ s.scopes.frames)
    (h : ∀ f ∈ s.scopes.frames, (t.store.dict f).get? (.literal bare) = none) :
    t.lookup bare = .error (.notFound bare) := by
  have hnone : t.scopes.lookup? t.store bare = none :=
    List.findSome?_eq_none_iff.mpr fun f hf => h f (hsuffix.subset hf)
  rw [lookup, hnone]

/-- If there were frames before a scope, then a frame that is entered after a reset within the scope
is left behind in their place. -/
theorem frames_of_reset_scope (frame other : DictRef) (h : s.scopes.frames ≠ []) :
    (s.perform (.scope frame
      [.reset, .push (.dict other), .call (.primitive .beginScope)])).scopes.frames = [other] := by
  change [other].drop (1 - s.scopes.frames.length) = [other]
  rw [Nat.sub_eq_zero_of_le (List.length_pos_iff.mpr h), List.drop_zero]

/-- **Frames escape from a scope by a reset.** Nothing that was entered in a scope is left when it
is closed, and no name that is bound only there is found, if the session is not reset within it or
if there was no frame before it. But where there is a frame, some scope leaves another one
behind. -/
theorem frames_escape_by_reset (s : Session) :
    (∀ frame inner, Action.areResetFree inner = true ∨ s.scopes.frames = [] →
      let after := s.perform (.scope frame inner)
      after.scopes.frames <:+ s.scopes.frames ∧
        ∀ bare, (∀ f ∈ s.scopes.frames, (after.store.dict f).get? (.literal bare) = none) →
          after.lookup bare = .error (.notFound bare)) ∧
      ((∀ frame inner, (s.perform (.scope frame inner)).scopes.frames <:+ s.scopes.frames) ↔
        s.scopes.frames = []) := by
  refine ⟨fun frame inner h => ?_, fun h => ?_, fun h frame inner => ?_⟩
  · have hsuffix := frames_suffix_of_scope s frame inner h
    exact ⟨hsuffix, fun bare => lookup_of_suffix hsuffix⟩
  · by_contra hframes
    -- of two frames that can be left behind only one can be the outermost one from before
    have hzero := h ⟨0⟩ [.reset, .push (.dict ⟨0⟩), .call (.primitive .beginScope)]
    have hone := h ⟨0⟩ [.reset, .push (.dict ⟨1⟩), .call (.primitive .beginScope)]
    rw [frames_of_reset_scope _ _ hframes] at hzero hone
    have hsuffix := List.suffix_of_suffix_length_le hzero hone (Nat.le_refl 1)
    exact absurd hsuffix (by decide)
  · exact frames_suffix_of_scope s frame inner (.inr h)

/-- A scope in which two frames are entered and none is left. -/
theorem frames_escape_by_reset_of_unmatched :
    let s := (fresh .standard .silent).perform (.define ⟨"/a"⟩ (.number (.int 1)))
    let inner : List Action :=
      [.push (.dict ⟨0⟩), .call (.primitive .beginScope), .run "1 dict begin /x 2 def"]
    Action.areResetFree inner = true ∧
      (s.perform (.scope ⟨0⟩ inner)).scopes.frames <:+ s.scopes.frames ∧
      s.scopes.frames ≠ [] :=
  ⟨rfl, ((frames_escape_by_reset _).1 ⟨0⟩ _ (.inl rfl)).1, List.cons_ne_nil _ _⟩

/-- So it is not true that nothing escapes from a scope. After a reset within it a name is defined,
and when the scope is closed the frame with this name stands in the place of the one from before,
and the name, which was not bound before the scope, is found. -/
theorem not_frames_suffix_of_scope :
    let s := (fresh .standard .silent).performAll
      [.define ⟨"/a"⟩ (.number (.int 1)), .arrange fun store => (store.allocDict .empty).2]
    let after := s.perform (.scope ⟨1⟩ [.reset, .define ⟨"/x"⟩ (.number (.int 2))])
    ¬ after.scopes.frames <:+ s.scopes.frames ∧
      s.lookup "x" = .error (.notFound "x") ∧ after.lookup "x" = .ok (.number (.int 2)) :=
  ⟨by decide, rfl, rfl⟩

end Session

end StackScript

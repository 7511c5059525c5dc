import StackScript.Proofs.Session.Action

/-!
# Scopes of the host are closed by the host

Within a scope that the host has opened, neither a program nor the host itself gets at the frames
below the floor, unless the session is reset. At every point there the frames from before the scope
are still in place, with the frame of the scope on top of them, and once the scope is closed nothing
is different from before (`scope_keeps_frames`).

The invariant is that some frames are at the outer end of the stack and all of them under the floor
(`Scopes.Guards`). Only frames above the floor are left, so single steps of a run keep it. A scope
within the scope raises the floor further, and at its end puts both floor and frames back, because
the invariant holds within it for the frames that are there at its beginning.
-/

namespace StackScript

/-! ## The invariant -/

/-- The given frames are the outermost ones, and all of them are under the floor. -/
structure Scopes.Guards (sc : Scopes) (base : List DictRef) : Prop where
  /-- they are at the outer end -/
  suffix : base <:+ sc.frames
  /-- the floor is above them -/
  floor : base.length ≤ sc.floor

namespace Scopes.Guards

variable {sc outer : Scopes} {base : List DictRef} {frame : DictRef}

/-- A frame that is pushed is an inner one. -/
theorem push (h : sc.Guards base) (frame : DictRef) : (sc.push frame).Guards base :=
  ⟨h.suffix.trans (List.suffix_cons frame sc.frames), h.floor⟩

/-- A frame that is left is above the floor, and so are not those that are guarded. -/
theorem pop (h : sc.Guards base) (hpop : sc.pop? = some (frame, outer)) : outer.Guards base := by
  obtain ⟨hframes, hfloor, hlt⟩ := pop?_eq_some_iff.mp hpop
  refine ⟨?_, hfloor ▸ h.floor⟩
  have hle := h.floor
  have hdepth : sc.depth = outer.frames.length + 1 := by
    rw [depth, hframes, List.length_cons]
  have hsuffix := h.suffix
  rw [hframes, List.suffix_cons_iff] at hsuffix
  rcases hsuffix with rfl | hsuffix
  · -- all frames would be guarded, and the floor be above all of them
    rw [List.length_cons] at hle
    omega
  · exact hsuffix

/-- Binding a name adds a frame at most. -/
theorem define (h : sc.Guards base) {store store' : Store} {name : Name} {v : Value}
    (hdefine : sc.define store name v = .ok (outer, store')) : outer.Guards base := by
  obtain ⟨-, ⟨-, rfl, -⟩ | ⟨frame, rest, -, rfl, -⟩⟩ := define_eq_ok hdefine
  · exact h.push _
  · exact h

/-- Raising the floor guards all frames there are. -/
theorem raiseFloor (h : base <:+ sc.frames) : sc.raiseFloor.Guards base :=
  ⟨h, h.length_le⟩

/-- Single steps of a run keep frames guarded. -/
theorem step (h : sc.Guards base) {m after : Machine} (hstep : m.Step after)
    (hm : m.scopes = sc) : after.scopes.Guards base := by
  subst hm
  cases hstep with
  | refl => exact h
  | control => exact h
  | push v => exact h
  | primitive heffect =>
    cases heffect with
    | operands => exact h
    | put => exact h
    | dict => exact h
    | beginScope => exact h.push _
    | endScope hpop => exact h.pop hpop
    | define _ hdefine => exact h.define hdefine

end Scopes.Guards

namespace Session

/-- Runs keep frames guarded. -/
theorem kept_guards (base : List DictRef) : Kept fun m => m.scopes.Guards base where
  step hstep h := h.step hstep rfl
  load _ h := h

/-! ## Actions -/

mutual

/-- Whether an action resets the session neither itself nor in a scope. -/
def Action.isResetFree : Action → Bool
  | .reset => false
  | .scope _ inner => areResetFree inner
  | _ => true

/-- Whether no action of several resets the session. -/
def Action.areResetFree : List Action → Bool
  | [] => true
  | a :: rest => a.isResetFree && areResetFree rest

end

variable {s t : Session} {frame : DictRef}

/-- Where frames are guarded that were there when a scope was opened, closing it puts back what was
there. -/
theorem scopes_closeScope (h : t.scopes.Guards (frame :: s.scopes.frames)) :
    (t.closeScope (s.openScope frame).1).scopes = s.scopes := by
  have hsuffix := (List.suffix_cons frame s.scopes.frames).trans h.suffix
  change Scopes.mk (t.scopes.frames.drop (t.scopes.frames.length - s.scopes.frames.length))
    s.scopes.floor = s.scopes
  rw [← List.suffix_iff_eq_drop.mp hsuffix]

/-- Opening a scope guards the frames that were there, and its own. -/
theorem guards_openScope (s : Session) (frame : DictRef) :
    (s.openScope frame).2.scopes.Guards (frame :: s.scopes.frames) :=
  .raiseFloor List.suffix_rfl

mutual

/-- An action that does not reset the session keeps frames guarded. -/
theorem guards_perform {base : List DictRef} (s : Session) (a : Action)
    (ha : a.isResetFree = true) (h : s.scopes.Guards base) : (s.perform a).scopes.Guards base := by
  cases a with
  | reset => cases ha
  | scope frame inner =>
    have hinner := guards_performAll (s.openScope frame).2 inner ha (guards_openScope s frame)
    have hclosed : (s.perform (.scope frame inner)).scopes = s.scopes := scopes_closeScope hinner
    rw [hclosed]
    exact h
  | run source =>
    rcases hstart : (Action.run source).start? s with _ | c
    · rw [perform_run_of_start? hstart]
      exact h
    · exact (kept_guards base).perform hstart h
  | execute items => exact (kept_guards base).perform (a := .execute items) rfl h
  | call op => exact (kept_guards base).perform (a := .call op) rfl h
  | pop =>
    rw [perform, pop]
    split <;> exact h
  | define name v =>
    rw [perform, define]
    rcases hdefine : s.scopes.define s.store name v with f | ⟨scopes, store⟩
    · exact h
    · exact h.define hdefine
  | _ => exact h

/-- Several actions that do not reset the session keep frames guarded. -/
theorem guards_performAll {base : List DictRef} (s : Session) (actions : List Action)
    (hactions : Action.areResetFree actions = true) (h : s.scopes.Guards base) :
    (s.performAll actions).scopes.Guards base := by
  cases actions with
  | nil => exact h
  | cons a rest =>
    obtain ⟨ha, hrest⟩ := (Bool.and_eq_true _ _).mp hactions
    exact guards_performAll (s.perform a) rest hrest (guards_perform s a ha h)

end

/-- Frames stay guarded at every point. -/
theorem guards_of_visits {base : List DictRef} {actions : List Action}
    (hvisits : Visits s actions t) (hactions : Action.areResetFree actions = true)
    (h : s.scopes.Guards base) :
    t.scopes.Guards base := by
  induction hvisits with
  | here => exact h
  | during hstart n => exact (kept_guards base).during hstart h n
  | @inside s t frame inner rest _ ih =>
    obtain ⟨hinner, -⟩ := (Bool.and_eq_true _ _).mp hactions
    exact ih hinner (.raiseFloor (h.push frame).suffix)
  | after _ ih =>
    obtain ⟨ha, hrest⟩ := (Bool.and_eq_true _ _).mp hactions
    exact ih hrest (guards_perform _ _ ha h)

/-! ## Scopes -/

/-- **A scope of the host is closed by the host.** Whatever is done within it, short of a reset: at
every point, also in the midst of a run, the outermost frames are those that were there before, in
their order, and then the frame of the scope. Once the scope is closed, the frames and the floor are
those that were there before. -/
theorem scope_keeps_frames (s : Session) (frame : DictRef) (inner : List Action)
    (h : Action.areResetFree inner = true) :
    (∀ t, Visits (s.openScope frame).2 inner t →
      (frame :: s.scopes.frames) <:+ t.scopes.frames) ∧
      (s.perform (.scope frame inner)).scopes = s.scopes := by
  have hopened := guards_openScope s frame
  exact ⟨fun t hvisits => (guards_of_visits hvisits h hopened).suffix,
    scopes_closeScope (guards_performAll _ inner h hopened)⟩

/-- Within a scope, programs leave more scopes than they enter, or fewer; one of them is in a
further scope. -/
theorem scope_keeps_frames_of_unmatched :
    let s := (fresh .standard .silent).perform (.define ⟨"/n"⟩ (.bool true))
    let inner : List Action :=
      [.run "end end 1 dict begin", .scope ⟨1⟩ [.call (.primitive .endScope), .run "\x7b"],
        .define ⟨"/n"⟩ (.bool false), .pop]
    Action.areResetFree inner = true ∧ s.scopes.frames = [⟨0⟩] ∧
      (s.perform (.scope ⟨0⟩ inner)).scopes = s.scopes :=
  ⟨rfl, rfl, (scope_keeps_frames _ _ _ rfl).2⟩

end Session

end StackScript

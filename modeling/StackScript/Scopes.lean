import StackScript.Fault
import StackScript.Store

/-!
# Scopes

Definitions are kept in dictionaries, and the dictionaries that are looked into form a stack of
frames, the innermost one first. A name is looked up from the innermost frame outwards; a definition
always goes into the innermost frame, which is created for the first definition if there is none.

Frames are shared with the rest of the program: a frame is a reference to a dictionary that may also
lie on the operand stack.

Below the *floor* the stack belongs to the host. A program can leave a scope only above it.
-/

namespace StackScript

/-- The stack of frames. -/
structure Scopes where
  /-- the dictionaries that are looked into, innermost first -/
  frames : List DictRef
  /-- how many of the outermost frames a program cannot leave -/
  floor : Nat
  deriving DecidableEq, Repr

namespace Scopes

/-- No frame at all, and no floor. -/
def empty : Scopes :=
  ⟨[], 0⟩

/-- The number of frames. -/
def depth (sc : Scopes) : Nat :=
  sc.frames.length

/-- Makes a dictionary the innermost frame. -/
def push (sc : Scopes) (frame : DictRef) : Scopes :=
  { sc with frames := frame :: sc.frames }

/-- The innermost frame. -/
def top? (sc : Scopes) : Option DictRef :=
  sc.frames.head?

/-- The innermost frame, and the stack without it; frames up to the floor stay where they are. -/
def pop? (sc : Scopes) : Option (DictRef × Scopes) :=
  match sc.frames with
  | [] => none
  | frame :: outer =>
    if sc.depth ≤ sc.floor then none else some (frame, { sc with frames := outer })

/-- Removes every frame, whatever the floor; the floor itself stays. -/
def clear (sc : Scopes) : Scopes :=
  { sc with frames := [] }

/-- Removes inner frames until at most `depth` are left, whatever the floor. -/
def truncate (sc : Scopes) (depth : Nat) : Scopes :=
  { sc with frames := sc.frames.drop (sc.frames.length - depth) }

/-- Puts every present frame below the floor. -/
def raiseFloor (sc : Scopes) : Scopes :=
  { sc with floor := sc.depth }

/-! ## Names -/

/-- What a bare name is bound to in the innermost frame that binds it. -/
def lookup? (sc : Scopes) (store : Store) (bare : String) : Option Value :=
  let key := Name.literal bare
  sc.frames.findSome? fun frame => (store.dict frame).get? key

/-- Binds a name literal in the innermost frame, in a new one if there is none. A name that may not
be defined is refused, and then no frame is created either. -/
def define (sc : Scopes) (store : Store) (name : Name) (v : Value) :
    Except Fault (Scopes × Store) :=
  if name.isDefinable then
    match sc.frames with
    | [] =>
      let (frame, store) := store.allocDict (Dictionary.empty.insert name v)
      .ok (sc.push frame, store)
    | frame :: _ => .ok (sc, store.bind frame name v)
  else .error (.invalidName name)

/-! ## Small facts -/

/-- Only an inner frame above the floor can be left. -/
theorem pop?_eq_some_iff {sc outer : Scopes} {frame : DictRef} :
    sc.pop? = some (frame, outer) ↔
      sc.frames = frame :: outer.frames ∧ outer.floor = sc.floor ∧ sc.floor < sc.depth := by
  obtain ⟨frames, floor⟩ := sc
  obtain ⟨frames', floor'⟩ := outer
  cases frames with
  | nil => simp [pop?]
  | cons top rest =>
    by_cases h : depth ⟨top :: rest, floor⟩ ≤ floor
    · simp [pop?, h, Nat.not_lt.mpr h]
    · have hlt := Nat.lt_of_not_le h
      simp [pop?, h, hlt, and_assoc, eq_comm]

/-- A name that could be bound may be defined, and was bound in the innermost frame, which was a new
one if there was none. -/
theorem define_eq_ok {sc scopes : Scopes} {store store' : Store} {name : Name} {v : Value}
    (h : sc.define store name v = .ok (scopes, store')) :
    name.isDefinable = true ∧
      ((sc.frames = [] ∧ scopes = sc.push (store.allocDict (Dictionary.empty.insert name v)).1 ∧
          store' = (store.allocDict (Dictionary.empty.insert name v)).2) ∨
        ∃ frame outer, sc.frames = frame :: outer ∧ scopes = sc ∧
          store' = store.bind frame name v) := by
  rw [define] at h
  split at h
  · next hname =>
    refine ⟨hname, ?_⟩
    split at h
    · next hframes =>
      cases h
      exact .inl ⟨hframes, rfl, rfl⟩
    · next frame outer hframes =>
      cases h
      exact .inr ⟨frame, outer, hframes, rfl, rfl⟩
  · cases h

/-- Cutting back leaves a part of the outer end of the stack. -/
theorem frames_truncate_suffix (sc : Scopes) (depth : Nat) :
    (sc.truncate depth).frames <:+ sc.frames :=
  List.drop_suffix _ _

/-- Cutting back never leaves more frames than asked for. -/
theorem depth_truncate_le (sc : Scopes) (depth : Nat) : (sc.truncate depth).depth ≤ depth := by
  simp [truncate, Scopes.depth]
  omega

end Scopes

end StackScript

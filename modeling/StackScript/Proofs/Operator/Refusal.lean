import StackScript.Control

/-!
# How operators refuse

An operator that does not go ahead answers with a fault about itself. Most faults name the operator,
and the few that do not belong to one operator only: a name that may not be defined to `def`, the
scope that is not there to `end`, the step that leads nowhere to `for`. So it can be told from a
fault whether an operator can have refused with it (`Fault.isRefusalOf`). In particular the fault of
exceeding the limit on nesting never is a refusal: it comes from bodies alone.

That there are no other faults is proved once for the checks of operands and then goes through the
steps of which operators are made (`Refuses`). What the checks raise at all is said before, for any
property of faults (`Raises`).
-/

namespace StackScript

/-! ## What the checks raise -/

/-- Every fault that something comes to has a property. -/
def Raises {α : Type} (P : Fault → Prop) (x : Except Fault α) : Prop :=
  ∀ f, x = .error f → P f

namespace Raises

variable {α β : Type} {P : Fault → Prop} {op : Operator}

/-- A result is no fault. -/
theorem ok (a : α) : Raises P (.ok a) := by
  rintro f ⟨⟩

theorem error {f : Fault} (h : P f) : Raises P (.error f : Except Fault α) := by
  rintro g ⟨⟩
  exact h

/-- The fault of two steps is that of the first or, after its result, that of the second. -/
theorem bind {x : Except Fault α} {next : α → Except Fault β} (hx : Raises P x)
    (hnext : ∀ a, Raises P (next a)) : Raises P (x >>= next) := by
  cases x with
  | error f => exact error (hx f rfl)
  | ok a => exact hnext a

theorem map {x : Except Fault α} {f : α → β} (hx : Raises P x) : Raises P (x.map f) := by
  cases x with
  | error f => exact error (hx f rfl)
  | ok a => exact ok _

section Operands

variable (hkind : ∀ expected found, P (.wrongKind op expected found))
include hkind

theorem expectNumber (v : Value) : Raises P (v.expectNumber op) := by
  cases v with
  | number n => exact ok n
  | _ => exact error (hkind _ _)

theorem expectInt (v : Value) : Raises P (v.expectInt op) := by
  cases v with
  | number n =>
    cases n with
    | int n => exact ok n
    | real x => exact error (hkind _ _)
  | _ => exact error (hkind _ _)

theorem expectBool (v : Value) : Raises P (v.expectBool op) := by
  cases v with
  | bool b => exact ok b
  | _ => exact error (hkind _ _)

theorem expectProc (v : Value) : Raises P (v.expectProc op) := by
  cases v with
  | proc body => exact ok body
  | _ => exact error (hkind _ _)

theorem expectArray (v : Value) : Raises P (v.expectArray op) := by
  cases v with
  | array r => exact ok r
  | _ => exact error (hkind _ _)

theorem expectDefinable (hname : ∀ n, P (.invalidName n)) (v : Value) :
    Raises P (v.expectDefinable op) := by
  cases v with
  | name n =>
    rw [Value.expectDefinable]
    split
    · exact ok n
    · exact error (hname n)
  | _ => exact error (hkind _ _)

theorem element (hrange : ∀ i length, P (.outOfRange op i length)) (s : Store)
    (array index : Value) : Raises P (s.element op array index) := by
  refine (expectArray hkind array).bind fun r => (expectInt hkind index).bind fun i => ?_
  dsimp only
  split
  · exact ok _
  · exact error (hrange _ _)

end Operands

/-- The scopes refuse a name only if it may not be defined. -/
theorem define (hname : ∀ n, P (.invalidName n)) (sc : Scopes) (store : Store) (n : Name)
    (v : Value) : Raises P (sc.define store n v) := by
  rw [Scopes.define]
  split
  · split <;> exact ok _
  · exact error (hname n)

end Raises

/-! ## Refusals -/

/-- Whether a fault is one with which an operator can refuse its operands. -/
def Fault.isRefusalOf (op : Operator) : Fault → Bool
  | .tooFewOperands refusing .. | .wrongKind refusing .. | .outOfRange refusing ..
  | .byZero refusing => decide (refusing = op)
  | .invalidName _ => decide (op = .primitive .define)
  | .noScope => decide (op = .primitive .endScope)
  | .zeroStep => decide (op = .control .forLoop)
  | .notFound _ | .falsyBinding .. | .unknownSymbol _ | .tooDeep _ => false

/-- If it is a fault that something comes to, the operator can refuse with it. -/
abbrev Refuses {α : Type} (op : Operator) (x : Except Fault α) : Prop :=
  Raises (fun f => f.isRefusalOf op = true) x

namespace Refuses

variable {α : Type} {op : Operator}

/-- The limit on nesting is not what an operator refuses with. -/
theorem ne_tooDeep {x : Except Fault α} {f : Fault} (hx : Refuses op x) (h : x = .error f)
    (limit : Nat) : f ≠ .tooDeep limit := by
  rintro rfl
  cases hx _ h

/-! ## Operands of the right kind -/

theorem expectNumber (v : Value) : Refuses op (v.expectNumber op) :=
  Raises.expectNumber (fun _ _ => decide_eq_true rfl) v

theorem expectInt (v : Value) : Refuses op (v.expectInt op) :=
  Raises.expectInt (fun _ _ => decide_eq_true rfl) v

theorem expectBool (v : Value) : Refuses op (v.expectBool op) :=
  Raises.expectBool (fun _ _ => decide_eq_true rfl) v

theorem expectProc (v : Value) : Refuses op (v.expectProc op) :=
  Raises.expectProc (fun _ _ => decide_eq_true rfl) v

theorem expectArray (v : Value) : Refuses op (v.expectArray op) :=
  Raises.expectArray (fun _ _ => decide_eq_true rfl) v

/-- Only `def` asks for a name, so a name that may not be defined is a refusal of `def`. -/
theorem expectDefinable (v : Value) :
    Refuses (.primitive .define) (v.expectDefinable (.primitive .define)) :=
  Raises.expectDefinable (fun _ _ => rfl) (fun _ => rfl) v

theorem element (s : Store) (array index : Value) : Refuses op (s.element op array index) :=
  Raises.element (fun _ _ => decide_eq_true rfl) (fun _ _ => decide_eq_true rfl) s array index

/-! ## Replacing operands by results -/

section Machines

variable {m : Machine}

theorem withOne {f : Value → Except Fault (List Value)} (hf : ∀ a, Refuses op (f a)) :
    Refuses op (m.withOne op f) := by
  rw [Machine.withOne]
  split
  · exact (hf _).map
  · exact Raises.error (decide_eq_true rfl)

theorem withTwo {f : Value → Value → Except Fault (List Value)} (hf : ∀ a b, Refuses op (f a b)) :
    Refuses op (m.withTwo op f) := by
  rw [Machine.withTwo]
  split
  · exact (hf _ _).map
  · exact Raises.error (decide_eq_true rfl)

/-- Two numbers are asked for, and then a function of them. -/
theorem withNumbers {f : Number → Number → Except Fault (List Value)}
    (hf : ∀ x y, Refuses op (f x y)) :
    Refuses op (m.withTwo op fun a b => do
      let x ← a.expectNumber op
      let y ← b.expectNumber op
      f x y) :=
  withTwo fun a b => (expectNumber a).bind fun x => (expectNumber b).bind fun y => hf x y

end Machines

end Refuses

/-! ## Primitives -/

namespace Primitive

variable {p : Primitive} {m : Machine}

theorem refuses_arithmetic (f : Number → Number → Number) :
    Refuses (.primitive p) (arithmetic p f m) :=
  .withNumbers fun _ _ => Raises.ok _

theorem refuses_division (f : Number → Number → Number) :
    Refuses (.primitive p) (division p f m) := by
  refine .withNumbers fun x y => ?_
  split
  · exact Raises.error (decide_eq_true rfl)
  · exact Raises.ok _

theorem refuses_comparison (f : Number → Number → Bool) :
    Refuses (.primitive p) (comparison p f m) :=
  .withNumbers fun _ _ => Raises.ok _

theorem refuses_logic (f : Bool → Bool → Bool) : Refuses (.primitive p) (logic p f m) :=
  .withTwo fun a b => (Refuses.expectBool a).bind fun _ =>
    (Refuses.expectBool b).bind fun _ => Raises.ok _

theorem refuses_copy : Refuses (.primitive .copy) m.copy := by
  rw [Machine.copy]
  split
  · split
    · exact Raises.error rfl
    · split
      · exact Raises.ok _
      · exact Raises.error rfl
  · exact Raises.error rfl
  · exact Raises.error rfl

theorem refuses_beginScope (mode : Mode) :
    Refuses (.primitive .beginScope) (m.beginScope mode) := by
  rw [Machine.beginScope]
  split
  · exact Raises.ok _
  · split
    · exact Raises.error rfl
    · exact Raises.ok _
  · split
    · exact Raises.error rfl
    · exact Raises.ok _

theorem refuses_define : Refuses (.primitive .define) m.define := by
  rw [Machine.define]
  split
  · exact (Refuses.expectDefinable _).bind fun _ =>
      Raises.bind (Raises.define (fun _ => rfl) _ _ _ _) fun _ => Raises.ok _
  · exact Raises.error rfl

/-- **Primitives refuse for themselves**: a fault that a primitive answers with is one with which it
can refuse its operands. -/
theorem refuses_apply (p : Primitive) (mode : Mode) (m : Machine) :
    Refuses (.primitive p) (p.apply mode m) := by
  cases p with
  | add | sub | mul => exact refuses_arithmetic _
  | div | mod => exact refuses_division _
  | lt | gt | eq => exact refuses_comparison _
  | and | or => exact refuses_logic _
  | neg => exact .withOne fun a => (Refuses.expectNumber a).map
  | length => exact .withOne fun a => (Refuses.expectArray a).map
  | not => exact .withOne fun a => (Refuses.expectBool a).map
  | get => exact .withTwo fun array index => (Refuses.element _ array index).map
  | dup | pop => exact .withOne fun _ => Raises.ok _
  | exch => exact .withTwo fun _ _ => Raises.ok _
  | put =>
    rw [apply, Machine.put]
    split
    · exact (Refuses.element _ _ _).map
    · exact Raises.error rfl
  | copy => exact refuses_copy
  | clear | stack | count => exact Raises.ok _
  | print =>
    rw [apply, Machine.printTop]
    split
    · exact Raises.ok _
    · exact Raises.error rfl
  | dict =>
    rw [apply, Machine.newDict]
    split
    · exact (Refuses.expectNumber _).map
    · exact Raises.error rfl
  | beginScope => exact refuses_beginScope mode
  | endScope =>
    rw [apply, Machine.endScope]
    split
    · exact Raises.ok _
    · exact Raises.error rfl
  | define => exact refuses_define

end Primitive

/-! ## Control operators -/

/-- **Control operators refuse for themselves**: a fault that one answers with before it has run a
body is one with which it can refuse its operands. -/
theorem Control.refuses_prepare (c : Control) (m : Machine) :
    Refuses (.control c) (c.prepare m) := by
  cases c with
  | ifTrue =>
    rw [prepare, prepareIf]
    split
    · exact (Refuses.expectBool _).bind fun _ => (Refuses.expectProc _).bind fun _ => Raises.ok _
    · exact Raises.error rfl
  | ifElse =>
    rw [prepare, prepareIfElse]
    split
    · exact (Refuses.expectBool _).bind fun _ => (Refuses.expectProc _).bind fun _ =>
        (Refuses.expectProc _).bind fun _ => Raises.ok _
    · exact Raises.error rfl
  | forLoop =>
    rw [prepare, prepareFor]
    split
    · refine (Refuses.expectInt _).bind fun _ => (Refuses.expectInt _).bind fun _ =>
        (Refuses.expectInt _).bind fun _ => (Refuses.expectProc _).bind fun _ => ?_
      split
      · exact Raises.error rfl
      · exact Raises.ok _
    · exact Raises.error rfl
  | forAll =>
    rw [prepare, prepareForAll]
    split
    · split
      · split
        · exact (Refuses.expectProc _).bind fun _ => Raises.ok _
        · exact Raises.error rfl
      · exact Raises.error rfl
    · exact Raises.error rfl

end StackScript

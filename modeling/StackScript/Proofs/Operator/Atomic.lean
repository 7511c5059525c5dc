import StackScript.Perform

/-!
# Operators are atomic

An operator is told in two ways: by what it does (`Primitive.apply`, `Control.prepare`), where a
fault comes without a machine, and by how it is carried out (`Primitive.perform`,
`Control.perform`), where a fault could come with one whose operands are gone. Both agree:

* `perform_primitive`: carrying out a primitive is doing it at once, or not at all;
* `perform_control`: the same for a control operator, up to its first body.

The reason is the same for every operator: what its check lets through, its operation accepts. So
nothing that is looked at a second time, after the operands have been taken, is ever refused.
-/

namespace StackScript

namespace Value

variable {op : Operator} {v : Value}

/-! ## Accepted operands -/

/-- Only a number is accepted as one. -/
theorem eq_number_of_expectNumber {n : Number} (h : v.expectNumber op = .ok n) : v = .number n := by
  cases v with
  | number m =>
    obtain rfl : m = n := Except.ok.inj h
    rfl
  | _ => cases h

/-- Only an integer is accepted as one. -/
theorem eq_int_of_expectInt {n : Int64} (h : v.expectInt op = .ok n) : v = .number (.int n) := by
  cases v with
  | number m =>
    cases m with
    | int m =>
      obtain rfl : m = n := Except.ok.inj h
      rfl
    | real x => cases h
  | _ => cases h

/-- Only a truth value is accepted as one. -/
theorem eq_bool_of_expectBool {b : Bool} (h : v.expectBool op = .ok b) : v = .bool b := by
  cases v with
  | bool c =>
    obtain rfl : c = b := Except.ok.inj h
    rfl
  | _ => cases h

/-- Only a procedure is accepted as one. -/
theorem eq_proc_of_expectProc {body : List Value} (h : v.expectProc op = .ok body) :
    v = .proc body := by
  cases v with
  | proc b =>
    obtain rfl : b = body := Except.ok.inj h
    rfl
  | _ => cases h

/-- A name that is accepted as a key may be defined. -/
theorem isDefinable_of_expectDefinable {n : Name} (h : v.expectDefinable op = .ok n) :
    n.isDefinable = true := by
  cases v with
  | name m =>
    rw [expectDefinable] at h
    by_cases hm : m.isDefinable = true
    · rw [if_pos hm] at h
      obtain rfl : m = n := Except.ok.inj h
      exact hm
    · rw [if_neg hm] at h
      cases h
  | _ => cases h

end Value

/-- A definable name is never refused by the scopes. -/
theorem Scopes.define_ne_error {sc : Scopes} {store : Store} {n : Name} {v : Value} {f : Fault}
    (hn : n.isDefinable = true) : sc.define store n v ≠ .error f := by
  unfold Scopes.define
  rw [if_pos hn]
  split <;> intro h <;> cases h

/-! ## The harness, by the number of operands

Too few operands are refused in the same way by the harness and by `Machine.withOne` and
`Machine.withTwo`; what remains is to compare the two on the operands themselves. -/

section Harness

variable {op : Operator} {m : Machine}

/-- The harness on one operand carries out a function from the operand to results, if it does so
on every operand. -/
theorem pushed_operate_one {check : Store → Value → Except Fault Unit}
    {operation : Value → Machine → Attempt (List Value)} {f : Value → Except Fault (List Value)}
    (h : ∀ a rest, Attempt.pushed
        (match check m.store a with
        | .error e => (.error e, m)
        | .ok _ => operation a { m with operands := rest }) =
      .settled m ((f a).map fun results => { m with operands := results ++ rest })) :
    Attempt.pushed (m.operate op .one check operation) = .settled m (m.withOne op f) := by
  rcases hops : m.operands with _ | ⟨a, rest⟩
  · simp [Machine.operate, Machine.withOne, Arity.one, hops, Attempt.pushed, Attempt.settled]
  · simp only [Machine.operate, Machine.withOne, Arity.one, hops]
    exact h a rest

/-- The harness on two operands carries out a function from the operands to results, if it does so
on every two operands. -/
theorem pushed_operate_two {check : Store → Value × Value → Except Fault Unit}
    {operation : Value × Value → Machine → Attempt (List Value)}
    {f : Value → Value → Except Fault (List Value)}
    (h : ∀ a b rest, Attempt.pushed
        (match check m.store (a, b) with
        | .error e => (.error e, m)
        | .ok _ => operation (a, b) { m with operands := rest }) =
      .settled m ((f a b).map fun results => { m with operands := results ++ rest })) :
    Attempt.pushed (m.operate op .two check operation) = .settled m (m.withTwo op f) := by
  rcases hops : m.operands with _ | ⟨b, _ | ⟨a, rest⟩⟩
  · simp [Machine.operate, Machine.withTwo, Arity.two, hops, Attempt.pushed, Attempt.settled]
  · simp [Machine.operate, Machine.withTwo, Arity.two, hops, Attempt.pushed, Attempt.settled]
  · simp only [Machine.operate, Machine.withTwo, Arity.two, hops]
    exact h a b rest

end Harness

/-! ## Families of primitives -/

namespace Primitive

variable (p : Primitive) (m : Machine)

/-- Computing from two numbers: the operation reads the numbers that the check has seen. -/
theorem performNumeric_numbers (f : Number → Number → Value) :
    performNumeric p checkNumbers f m = .settled m (m.withTwo (.primitive p) fun a b => do
      let x ← a.expectNumber (.primitive p)
      let y ← b.expectNumber (.primitive p)
      pure [f x y]) := by
  refine pushed_operate_two fun a b rest => ?_
  simp only [checkNumbers]
  rcases ha : a.expectNumber (.primitive p) with fault | x
  · rfl
  rcases hb : b.expectNumber (.primitive p) with fault | y
  · rfl
  obtain rfl := Value.eq_number_of_expectNumber ha
  obtain rfl := Value.eq_number_of_expectNumber hb
  rfl

/-- Dividing two numbers: the zero that the check refuses is the one that is asked for. -/
theorem performNumeric_division (f : Number → Number → Number) :
    performNumeric p checkDivision (fun x y => .number (f x y)) m =
      .settled m (division p f m) := by
  refine pushed_operate_two fun a b rest => ?_
  simp only [checkDivision, checkNumbers]
  rcases ha : a.expectNumber (.primitive p) with fault | x
  · rfl
  rcases hb : b.expectNumber (.primitive p) with fault | y
  · rfl
  obtain rfl := Value.eq_number_of_expectNumber ha
  obtain rfl := Value.eq_number_of_expectNumber hb
  rcases hzero : y.isZero with _ | _ <;>
    simp [Value.numberOrZero, hzero, bind, Except.bind, pure, Except.pure, Except.map,
      Attempt.pushed, Attempt.settled, Operands.pushAll]

/-- Two truth values are looked at twice, with the same result. -/
theorem performLogic_eq (f : Bool → Bool → Bool) :
    performLogic p f m = .settled m (logic p f m) := by
  refine pushed_operate_two fun a b rest => ?_
  dsimp only
  rcases ha : a.expectBool (.primitive p) with fault | x
  · rfl
  rcases hb : b.expectBool (.primitive p) with fault | y
  · rfl
  rfl

/-! ## Primitives outside the harness -/

/-- `copy` takes its count only when there is enough to be copied. -/
theorem performCopy_eq : performCopy m = .settled m m.copy := by
  rcases hops : m.operands with _ | ⟨v, rest⟩
  · simp [performCopy, Machine.copy, hops, Attempt.settled]
  cases v with
  | number n =>
    cases n with
    | int n =>
      simp only [performCopy, Machine.copy, hops, List.head?_cons, List.length_cons,
        List.tail_cons, Nat.add_sub_cancel, Operands.duplicateTop?]
      -- the count lies on the stack itself, so one value less than there are may be copied
      by_cases hneg : n.toInt < 0
      · simp [hneg, Attempt.settled]
      by_cases hfew : rest.length < n.toInt.toNat
      · have hle : ¬ n.toInt.toNat ≤ rest.length := by omega
        simp only [if_neg hneg, if_pos hfew, if_neg hle, Attempt.settled]
      · have hle : n.toInt.toNat ≤ rest.length := by omega
        simp only [if_neg hneg, if_neg hfew, if_pos hle, Option.getD_some, Attempt.settled]
    | real x => simp [performCopy, Machine.copy, hops, Attempt.settled]
  | _ => simp [performCopy, Machine.copy, hops, Attempt.settled]

/-- `begin` either moves a dictionary or leaves the machine alone. -/
theorem performBegin_eq (mode : Mode) : performBegin mode m = .settled m (m.beginScope mode) := by
  rcases hops : m.operands with _ | ⟨v, rest⟩
  · cases mode <;>
      simp [performBegin, Machine.beginScope, hops, Mode.checksBegin, Attempt.settled]
  · cases v <;> cases mode <;>
      simp [performBegin, Machine.beginScope, hops, Mode.checksBegin, Attempt.settled]

/-! ## Primitives that do more than replace operands -/

/-- `put` looks at the array and the index twice; taking the operands does not change the array. -/
theorem perform_put (mode : Mode) : perform mode .put m = .settled m m.put := by
  rcases hops : m.operands with _ | ⟨v, _ | ⟨index, _ | ⟨array, rest⟩⟩⟩
  · simp [perform, Machine.operate, Arity.three, Machine.put, hops, Attempt.pushed,
      Attempt.settled]
  · simp [perform, Machine.operate, Arity.three, Machine.put, hops, Attempt.pushed,
      Attempt.settled]
  · simp [perform, Machine.operate, Arity.three, Machine.put, hops, Attempt.pushed,
      Attempt.settled]
  simp only [perform, Machine.operate, Arity.three, Machine.put, hops]
  rcases helement : m.store.element (.primitive .put) array index with fault | ⟨r, i⟩
  · rfl
  · rfl

/-- `dict` looks at its operand and then has no use for it. -/
theorem perform_dict (mode : Mode) : perform mode .dict m = .settled m m.newDict := by
  rcases hops : m.operands with _ | ⟨hint, rest⟩
  · simp [perform, Machine.operate, Arity.one, Machine.newDict, hops, Attempt.pushed,
      Attempt.settled]
  simp only [perform, Machine.operate, Arity.one, Machine.newDict, hops]
  rcases hnumber : hint.expectNumber (.primitive .dict) with fault | n
  · rfl
  · rfl

/-- `def` looks at the name three times: in its check, when it takes the name, and when the scopes
bind it. -/
theorem perform_define (mode : Mode) : perform mode .define m = .settled m m.define := by
  rcases hops : m.operands with _ | ⟨v, _ | ⟨name, rest⟩⟩
  · simp [perform, Machine.operate, Arity.two, Machine.define, hops, Attempt.pushed,
      Attempt.settled]
  · simp [perform, Machine.operate, Arity.two, Machine.define, hops, Attempt.pushed,
      Attempt.settled]
  simp only [perform, Machine.operate, Arity.two, Machine.define, hops]
  rcases hname : name.expectDefinable (.primitive .define) with fault | n
  · rfl
  -- the scopes ask again whether the name may be defined, after the operands are gone
  have hn : n.isDefinable = true := Value.isDefinable_of_expectDefinable hname
  rcases hdefine : m.scopes.define m.store n v with fault | ⟨scopes, store⟩
  · exact absurd hdefine (Scopes.define_ne_error hn)
  · simp [Except.map, hdefine, bind, Except.bind, pure, Except.pure, Attempt.pushed,
      Attempt.settled, Operands.pushAll]

end Primitive

/-- **Primitives are atomic**: carried out step by step, a primitive does to the machine what
`Primitive.apply` says, or leaves it as it was. -/
theorem perform_primitive (mode : Mode) (p : Primitive) (m : Machine) :
    p.perform mode m = .settled m (p.apply mode m) := by
  cases p with
  | add => exact Primitive.performNumeric_numbers .add m fun x y => .number (x.add y)
  | sub => exact Primitive.performNumeric_numbers .sub m fun x y => .number (x.sub y)
  | mul => exact Primitive.performNumeric_numbers .mul m fun x y => .number (x.mul y)
  | div => exact Primitive.performNumeric_division _ _ _
  | mod => exact Primitive.performNumeric_division _ _ _
  | lt => exact Primitive.performNumeric_numbers .lt m fun x y => .bool (x.lt y)
  | gt => exact Primitive.performNumeric_numbers .gt m fun x y => .bool (x.gt y)
  | eq => exact Primitive.performNumeric_numbers .eq m fun x y => .bool (x.eq y)
  | neg =>
    refine pushed_operate_one fun a rest => ?_
    rcases ha : a.expectNumber (.primitive .neg) with fault | x
    · rfl
    · obtain rfl := Value.eq_number_of_expectNumber ha
      rfl
  | put => exact Primitive.perform_put m mode
  | length =>
    refine pushed_operate_one fun a rest => ?_
    rcases ha : a.expectArray (.primitive .length) with fault | r
    · rfl
    · rfl
  | get =>
    refine pushed_operate_two fun a i rest => ?_
    dsimp only
    rcases helement : m.store.element (.primitive .get) a i with fault | ⟨r, i⟩
    · rfl
    · rcases hitem : (m.store.array r)[i]? with _ | v <;>
        simp [Except.map, hitem, Attempt.pushed, Attempt.settled, Operands.pushAll]
  | and => exact Primitive.performLogic_eq _ _ _
  | or => exact Primitive.performLogic_eq _ _ _
  | not =>
    refine pushed_operate_one fun a rest => ?_
    rcases ha : a.expectBool (.primitive .not) with fault | b
    · rfl
    · rfl
  | dup => exact pushed_operate_one fun a rest => rfl
  | exch => exact pushed_operate_two fun a b rest => rfl
  | pop => exact pushed_operate_one fun a rest => rfl
  | copy => exact Primitive.performCopy_eq m
  | clear => rfl
  | stack => rfl
  | print =>
    rcases hops : m.operands with _ | ⟨v, rest⟩ <;>
      simp [Primitive.perform, Primitive.apply, Machine.operate, Machine.printTop, Arity.one, hops,
        Attempt.pushed, Attempt.settled, Operands.pushAll]
  | count => rfl
  | dict => exact Primitive.perform_dict m mode
  | beginScope => exact Primitive.performBegin_eq m mode
  | endScope =>
    rcases hpop : m.scopes.pop? with _ | ⟨frame, scopes⟩ <;>
      simp [Primitive.perform, Primitive.apply, Machine.endScope, hpop, Attempt.settled]
  | define => exact Primitive.perform_define m mode

/-! ## Control operators -/

namespace Control

variable (m : Machine)

/-- The attempt that stands for checking the operands of a control operator and taking them. -/
def settledPasses : Except Fault (Passes × Machine) → Attempt Passes
  | .ok (passes, after) => (.ok passes, after)
  | .error f => (.error f, m)

theorem perform_ifTrue : perform .ifTrue m = settledPasses m (prepareIf m) := by
  rcases hops : m.operands with _ | ⟨body, _ | ⟨condition, rest⟩⟩
  · simp [perform, Machine.operate, Arity.two, prepareIf, hops, settledPasses]
  · simp [perform, Machine.operate, Arity.two, prepareIf, hops, settledPasses]
  simp only [perform, Machine.operate, Arity.two, prepareIf, hops, checkIf]
  rcases hcondition : condition.expectBool (.control .ifTrue) with fault | b
  · rfl
  rcases hbody : body.expectProc (.control .ifTrue) with fault | items
  · rfl
  obtain rfl := Value.eq_bool_of_expectBool hcondition
  obtain rfl := Value.eq_proc_of_expectProc hbody
  cases b <;> rfl

theorem perform_ifElse : perform .ifElse m = settledPasses m (prepareIfElse m) := by
  rcases hops : m.operands with _ | ⟨otherwise, _ | ⟨body, _ | ⟨condition, rest⟩⟩⟩
  · simp [perform, Machine.operate, Arity.three, prepareIfElse, hops, settledPasses]
  · simp [perform, Machine.operate, Arity.three, prepareIfElse, hops, settledPasses]
  · simp [perform, Machine.operate, Arity.three, prepareIfElse, hops, settledPasses]
  simp only [perform, Machine.operate, Arity.three, prepareIfElse, hops, checkIfElse]
  rcases hcondition : condition.expectBool (.control .ifElse) with fault | b
  · rfl
  rcases hbody : body.expectProc (.control .ifElse) with fault | items
  · rfl
  rcases hother : otherwise.expectProc (.control .ifElse) with fault | others
  · rfl
  obtain rfl := Value.eq_bool_of_expectBool hcondition
  obtain rfl := Value.eq_proc_of_expectProc hbody
  obtain rfl := Value.eq_proc_of_expectProc hother
  cases b <;> rfl

/-- The bounds of a counting loop are looked at twice: before the operands are taken, and for the
values that the loop is then run with. -/
theorem perform_forLoop : perform .forLoop m = settledPasses m (prepareFor m) := by
  rcases hops : m.operands with _ | ⟨body, _ | ⟨limit, _ | ⟨step, _ | ⟨start, rest⟩⟩⟩⟩
  · simp [perform, Machine.operate, Arity.four, prepareFor, hops, settledPasses]
  · simp [perform, Machine.operate, Arity.four, prepareFor, hops, settledPasses]
  · simp [perform, Machine.operate, Arity.four, prepareFor, hops, settledPasses]
  · simp [perform, Machine.operate, Arity.four, prepareFor, hops, settledPasses]
  simp only [perform, Machine.operate, Arity.four, prepareFor, hops, loopBounds]
  rcases hstart : start.expectInt (.control .forLoop) with fault | a
  · rfl
  rcases hstep : step.expectInt (.control .forLoop) with fault | d
  · rfl
  rcases hlimit : limit.expectInt (.control .forLoop) with fault | b
  · rfl
  rcases hbody : body.expectProc (.control .forLoop) with fault | items
  · rfl
  obtain rfl := Value.eq_proc_of_expectProc hbody
  by_cases hzero : d.toInt = 0
  · simp [hzero, bind, Except.bind, Except.map, settledPasses]
  · simp [hzero, bind, Except.bind, pure, Except.pure, Except.map, settledPasses]

theorem perform_forAll : perform .forAll m = settledPasses m (prepareForAll m) := by
  rcases hops : m.operands with _ | ⟨body, _ | ⟨array, rest⟩⟩
  · simp [perform, Machine.operate, Arity.two, prepareForAll, hops, settledPasses]
  · simp [perform, Machine.operate, Arity.two, prepareForAll, hops, settledPasses]
  simp only [perform, Machine.operate, Arity.two, prepareForAll, hops]
  cases array with
  | array r =>
    by_cases hnumbers : (Value.array r).isNumberArray m.store = true
    · simp only [if_pos hnumbers]
      rcases hbody : body.expectProc (.control .forAll) with fault | items
      · rfl
      · obtain rfl := Value.eq_proc_of_expectProc hbody
        rfl
    · simp only [if_neg hnumbers]
      rfl
  | _ => rfl

end Control

/-- **Control operators are atomic** up to their first body: carried out step by step, one checks
and takes its operands as `Control.prepare` says, or leaves the machine as it was. -/
theorem perform_control (c : Control) (m : Machine) :
    c.perform m = Control.settledPasses m (c.prepare m) := by
  cases c with
  | ifTrue => exact Control.perform_ifTrue m
  | ifElse => exact Control.perform_ifElse m
  | forLoop => exact Control.perform_forLoop m
  | forAll => exact Control.perform_forAll m

end StackScript

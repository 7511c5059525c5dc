import StackScript.Control
import StackScript.Harness

/-!
# Carrying out operators

`Primitive.apply` and `Control.prepare` say what an operator does: from a machine to a machine, or
to a fault. This module says how it is done, one step after the other: most operators go through
the harness (`Machine.operate`), and several of them look at their operands a second time once these
have been taken; `copy`, `begin`, `end`, `clear`, `count` and `stack` work on the stacks by hand.

Running a program carries operators out in these steps. That both ways of telling it agree, and so
that a fault leaves nothing behind, is proved in `StackScript.Proofs.Operator.Atomic`.
-/

namespace StackScript

/-- The number that a value is; zero for want of one. -/
def Value.numberOrZero : Value → Number
  | .number n => n
  | _ => .real 0.0

namespace Primitive

/-! ## Families of primitives -/

/-- Both operands have to be numbers. -/
def checkNumbers (op : Operator) : Value × Value → Except Fault Unit
  | (a, b) => do
    let _ ← a.expectNumber op
    let _ ← b.expectNumber op

/-- Both operands have to be numbers, and the second must not be zero. -/
def checkDivision (op : Operator) : Value × Value → Except Fault Unit
  | (a, b) => do
    checkNumbers op (a, b)
    if b.numberOrZero.isZero then .error (.byZero op) else .ok ()

/-- Carries out a primitive that computes a value from two numbers. -/
def performNumeric (p : Primitive) (check : Operator → Value × Value → Except Fault Unit)
    (f : Number → Number → Value) (m : Machine) : Attempt Unit :=
  .pushed <| m.operate (.primitive p) .two (fun _ => check (.primitive p))
    fun (a, b) m => (.ok [f a.numberOrZero b.numberOrZero], m)

/-- Carries out a primitive on two truth values. -/
def performLogic (p : Primitive) (f : Bool → Bool → Bool) (m : Machine) : Attempt Unit :=
  let bools (a b : Value) : Except Fault (Bool × Bool) := do
    let x ← a.expectBool (.primitive p)
    let y ← b.expectBool (.primitive p)
    pure (x, y)
  .pushed <| m.operate (.primitive p) .two (fun _ (a, b) => (bools a b).map fun _ => ())
    fun (a, b) m => ((bools a b).map fun (x, y) => [.bool (f x y)], m)

/-! ## Primitives outside the harness -/

/-- `copy` validates its count against the stack below it, and only then takes it. -/
def performCopy (m : Machine) : Attempt Unit :=
  let op := Operator.primitive .copy
  let found := m.operands.length
  match m.operands.head? with
  | none => (.error (.tooFewOperands op 1 found), m)
  | some (.number (.int n)) =>
    if n.toInt < 0 then (.error (.outOfRange op n.toInt found), m)
    else if found - 1 < n.toInt.toNat then
      (.error (.tooFewOperands op (n.toInt.toNat + 1) found), m)
    else
      let taken := m.operands.tail
      (.ok (), { m with operands := (Operands.duplicateTop? taken n.toInt.toNat).getD taken })
  | some v => (.error (.wrongKind op .integer v.kind), m)

/-- `begin` moves a dictionary from one stack to the other; whether it may find none is up to the
mode. -/
def performBegin (mode : Mode) (m : Machine) : Attempt Unit :=
  let op := Operator.primitive .beginScope
  match m.operands.head? with
  | some (.dict r) => (.ok (), { m with operands := m.operands.tail, scopes := m.scopes.push r })
  | top? =>
    if mode.checksBegin then
      match top? with
      | none => (.error (.tooFewOperands op 1 0), m)
      | some v => (.error (.wrongKind op .dictionary v.kind), m)
    else (.ok (), m)

/-! ## All primitives -/

/-- Carries out a primitive, in a mode. -/
def perform (mode : Mode) (p : Primitive) (m : Machine) : Attempt Unit :=
  let op := Operator.primitive p
  match p with
  | .add => performNumeric p checkNumbers (fun x y => .number (x.add y)) m
  | .sub => performNumeric p checkNumbers (fun x y => .number (x.sub y)) m
  | .mul => performNumeric p checkNumbers (fun x y => .number (x.mul y)) m
  | .div => performNumeric p checkDivision (fun x y => .number (x.div y)) m
  | .mod => performNumeric p checkDivision (fun x y => .number (x.mod y)) m
  | .lt => performNumeric p checkNumbers (fun x y => .bool (x.lt y)) m
  | .gt => performNumeric p checkNumbers (fun x y => .bool (x.gt y)) m
  | .eq => performNumeric p checkNumbers (fun x y => .bool (x.eq y)) m
  | .neg =>
    .pushed <| m.operate op .one (fun _ a => (a.expectNumber op).map fun _ => ())
      fun a m => (.ok [.number a.numberOrZero.neg], m)
  | .put =>
    .pushed <| m.operate op .three
      (fun store (array, index, _) => (store.element op array index).map fun _ => ())
      fun (array, index, v) m =>
        match m.store.element op array index with
        | .ok (r, i) => (.ok [array], { m with store := m.store.put r i v })
        | .error f => (.error f, m)
  | .length =>
    .pushed <| m.operate op .one (fun _ a => (a.expectArray op).map fun _ => ())
      fun a m =>
        ((a.expectArray op).map fun r => [.number (.int (.ofNat (m.store.array r).size))], m)
  | .get =>
    .pushed <| m.operate op .two
      (fun store (array, index) => (store.element op array index).map fun _ => ())
      fun (array, index) m =>
        ((m.store.element op array index).map fun (r, i) => (m.store.array r)[i]?.toList, m)
  | .and => performLogic p (· && ·) m
  | .or => performLogic p (· || ·) m
  | .not =>
    .pushed <| m.operate op .one (fun _ a => (a.expectBool op).map fun _ => ())
      fun a m => ((a.expectBool op).map fun b => [.bool !b], m)
  | .dup => .pushed <| m.operate op .one (fun _ _ => .ok ()) fun a m => (.ok [a, a], m)
  | .exch => .pushed <| m.operate op .two (fun _ _ => .ok ()) fun (a, b) m => (.ok [b, a], m)
  | .pop => .pushed <| m.operate op .one (fun _ _ => .ok ()) fun _ m => (.ok [], m)
  | .copy => performCopy m
  | .clear => (.ok (), { m with operands := [] })
  | .stack => (.ok (), m.printAll)
  | .print => .pushed <| m.operate op .one (fun _ _ => .ok ()) fun a m => (.ok [], m.print a)
  | .count => (.ok (), m.push (.number (.int (.ofNat m.operands.length))))
  | .dict =>
    .pushed <| m.operate op .one (fun _ hint => (hint.expectNumber op).map fun _ => ())
      fun _ m =>
        let (r, store) := m.store.allocDict .empty
        (.ok [.dict r], { m with store := store })
  | .beginScope => performBegin mode m
  | .endScope =>
    match m.scopes.pop? with
    | some (_, scopes) => (.ok (), { m with scopes := scopes })
    | none => (.error .noScope, m)
  | .define =>
    .pushed <| m.operate op .two (fun _ (name, _) => (name.expectDefinable op).map fun _ => ())
      fun (name, v) m =>
        match name.expectDefinable op with
        | .error f => (.error f, m)
        | .ok name =>
          match m.scopes.define m.store name v with
          | .ok (scopes, store) => (.ok [], { m with scopes := scopes, store := store })
          | .error f => (.error f, m)

end Primitive

namespace Control

/-! ## Control operators -/

/-- The condition and the body of `if` have to be a truth value and a procedure. -/
def checkIf (op : Operator) : Value × Value → Except Fault Unit
  | (condition, body) => do
    let _ ← condition.expectBool op
    let _ ← body.expectProc op

/-- The condition and the bodies of `ifelse` have to be a truth value and two procedures. -/
def checkIfElse (op : Operator) : Value × Value × Value → Except Fault Unit
  | (condition, body, otherwise) => do
    let _ ← condition.expectBool op
    let _ ← body.expectProc op
    let _ ← otherwise.expectProc op

/-- One run of a value that is a procedure. -/
def runOf : Value → Passes
  | .proc body => .once body
  | _ => .none

/-- The integers of a counting loop, once all four operands are found to be in order. -/
def loopBounds (op : Operator) : Value × Value × Value × Value →
    Except Fault (Int64 × Int64 × Int64)
  | (start, step, limit, body) => do
    let start ← start.expectInt op
    let step ← step.expectInt op
    let limit ← limit.expectInt op
    let _ ← body.expectProc op
    if step.toInt = 0 then .error .zeroStep else .ok (start, step, limit)

/-- Carries out a control operator up to the point where a body is to be run. -/
def perform (c : Control) (m : Machine) : Attempt Passes :=
  let op := Operator.control c
  match c with
  | .ifTrue =>
    m.operate op .two (fun _ => checkIf op)
      fun (condition, body) m =>
        (.ok (if condition.toBool? = some true then runOf body else .none), m)
  | .ifElse =>
    m.operate op .three (fun _ => checkIfElse op)
      fun (condition, body, otherwise) m =>
        (.ok (runOf (if condition.toBool? = some true then body else otherwise)), m)
  | .forLoop =>
    m.operate op .four (fun _ operands => (loopBounds op operands).map fun _ => ())
      fun operands m =>
        match loopBounds op operands, operands with
        | .ok (start, step, limit), (_, _, _, .proc body) =>
          (.ok (.counting body start step limit), m)
        | .ok _, _ => (.ok .none, m)
        | .error f, _ => (.error f, m)
  | .forAll =>
    m.operate op .two
      (fun store (array, body) =>
        if array.isNumberArray store then (body.expectProc op).map fun _ => ()
        else .error (.wrongKind op .numberArray array.kind))
      fun (array, body) m =>
        match array, body with
        | .array r, .proc body => (.ok (.each body (m.store.array r).toList), m)
        | _, _ => (.ok .none, m)

end Control

end StackScript

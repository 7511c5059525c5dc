import StackScript.Machine
import StackScript.Mode
import StackScript.Number.Arithmetic
import StackScript.Value.Test

/-!
# Primitives

What the primitives do to the machine. A primitive either changes the machine or answers with a
fault, and because the answer is one or the other a fault can never leave a change behind: every
operand is checked before anything is taken from the stack.

Most primitives replace a fixed number of operands by some results and do nothing else. They are
given by a function from the operands to the results (`Machine.withOne` and its companions), which
makes it plain that the rest of the stack stays as it is.
-/

namespace StackScript

/-! ## Operands of the right kind -/

/-- A number, or the fault of an operator that needs one. -/
def Value.expectNumber (op : Operator) : Value → Except Fault Number
  | .number n => .ok n
  | v => .error (.wrongKind op .number v.kind)

/-- An integer, or the fault of an operator that needs one. -/
def Value.expectInt (op : Operator) : Value → Except Fault Int64
  | .number (.int n) => .ok n
  | v => .error (.wrongKind op .integer v.kind)

/-- A truth value, or the fault of an operator that needs one. -/
def Value.expectBool (op : Operator) : Value → Except Fault Bool
  | .bool b => .ok b
  | v => .error (.wrongKind op .boolean v.kind)

/-- A procedure, or the fault of an operator that needs one. -/
def Value.expectProc (op : Operator) : Value → Except Fault (List Value)
  | .proc body => .ok body
  | v => .error (.wrongKind op .procedure v.kind)

/-- An array, or the fault of an operator that needs one. -/
def Value.expectArray (op : Operator) : Value → Except Fault ArrayRef
  | .array r => .ok r
  | v => .error (.wrongKind op .array v.kind)

/-- A name that may be defined, or the fault of an operator that needs one. -/
def Value.expectDefinable (op : Operator) : Value → Except Fault Name
  | .name n => if n.isDefinable then .ok n else .error (.invalidName n)
  | v => .error (.wrongKind op .name v.kind)

/-- An array and a position within it, or the fault of an operator that needs them. -/
def Store.element (s : Store) (op : Operator) (array index : Value) :
    Except Fault (ArrayRef × Nat) := do
  let r ← array.expectArray op
  let i ← index.expectInt op
  let length := (s.array r).size
  if 0 ≤ i.toInt ∧ i.toInt < length then .ok (r, i.toInt.toNat)
  else .error (.outOfRange op i.toInt length)

/-! ## Replacing operands by results -/

namespace Machine

/-- Replaces the top operand by the results of a function, of which the first ends on top. -/
def withOne (op : Operator) (f : Value → Except Fault (List Value)) (m : Machine) :
    Except Fault Machine :=
  match m.operands with
  | a :: rest => (f a).map fun results => { m with operands := results ++ rest }
  | few => .error (.tooFewOperands op 1 few.length)

/-- Replaces the top two operands, the deeper of which is passed first. -/
def withTwo (op : Operator) (f : Value → Value → Except Fault (List Value)) (m : Machine) :
    Except Fault Machine :=
  match m.operands with
  | b :: a :: rest => (f a b).map fun results => { m with operands := results ++ rest }
  | few => .error (.tooFewOperands op 2 few.length)

/-! ## Primitives that do more than replace operands -/

/-- `put` stores the top operand in a slot of an array and leaves the array on the stack. -/
def put (m : Machine) : Except Fault Machine :=
  let op := Operator.primitive .put
  match m.operands with
  | v :: index :: array :: rest =>
    (m.store.element op array index).map fun (r, i) =>
      { m with operands := array :: rest, store := m.store.put r i v }
  | few => .error (.tooFewOperands op 3 few.length)

/-- `copy` takes a count and pushes that many of the values below it once more. -/
def copy (m : Machine) : Except Fault Machine :=
  let op := Operator.primitive .copy
  match m.operands with
  | .number (.int n) :: rest =>
    if n.toInt < 0 then .error (.outOfRange op n.toInt (rest.length + 1))
    else
      match Operands.duplicateTop? rest n.toInt.toNat with
      | some operands => .ok { m with operands := operands }
      | none => .error (.tooFewOperands op (n.toInt.toNat + 1) (rest.length + 1))
  | v :: _ => .error (.wrongKind op .integer v.kind)
  | [] => .error (.tooFewOperands op 1 0)

/-- `dict` takes a number, which says how large the dictionary may become and has no bearing on
anything, and pushes a new dictionary. -/
def newDict (m : Machine) : Except Fault Machine :=
  let op := Operator.primitive .dict
  match m.operands with
  | hint :: rest =>
    (hint.expectNumber op).map fun _ =>
      let (r, store) := m.store.allocDict .empty
      { m with operands := .dict r :: rest, store := store }
  | [] => .error (.tooFewOperands op 1 0)

/-- `begin` takes a dictionary from the stack and makes it the innermost frame. -/
def beginScope (mode : Mode) (m : Machine) : Except Fault Machine :=
  let op := Operator.primitive .beginScope
  match m.operands with
  | .dict r :: rest => .ok { m with operands := rest, scopes := m.scopes.push r }
  | v :: _ => if mode.checksBegin then .error (.wrongKind op .dictionary v.kind) else .ok m
  | [] => if mode.checksBegin then .error (.tooFewOperands op 1 0) else .ok m

/-- `end` leaves the innermost scope. -/
def endScope (m : Machine) : Except Fault Machine :=
  match m.scopes.pop? with
  | some (_, scopes) => .ok { m with scopes := scopes }
  | none => .error .noScope

/-- `def` takes a name and a value and binds them in the innermost frame. -/
def define (m : Machine) : Except Fault Machine :=
  let op := Operator.primitive .define
  match m.operands with
  | v :: name :: rest => do
    let name ← name.expectDefinable op
    let (scopes, store) ← m.scopes.define m.store name v
    pure { m with operands := rest, scopes := scopes, store := store }
  | few => .error (.tooFewOperands op 2 few.length)

/-- `=` takes a value and prints it. -/
def printTop (m : Machine) : Except Fault Machine :=
  match m.operands with
  | v :: rest => .ok ({ m with operands := rest }.print v)
  | [] => .error (.tooFewOperands (.primitive .print) 1 0)

/-- `stack` prints every operand, from the top down. -/
def printAll (m : Machine) : Machine :=
  m.operands.foldl print m

end Machine

/-! ## All primitives -/

namespace Primitive

/-- A primitive on two numbers whose result is a number. -/
def arithmetic (p : Primitive) (f : Number → Number → Number) : Machine → Except Fault Machine :=
  Machine.withTwo (.primitive p) fun a b => do
    let x ← a.expectNumber (.primitive p)
    let y ← b.expectNumber (.primitive p)
    pure [.number (f x y)]

/-- A primitive on two numbers of which the second must not be zero. -/
def division (p : Primitive) (f : Number → Number → Number) : Machine → Except Fault Machine :=
  Machine.withTwo (.primitive p) fun a b => do
    let x ← a.expectNumber (.primitive p)
    let y ← b.expectNumber (.primitive p)
    if y.isZero then .error (.byZero (.primitive p)) else pure [.number (f x y)]

/-- A primitive that compares two numbers. -/
def comparison (p : Primitive) (f : Number → Number → Bool) : Machine → Except Fault Machine :=
  Machine.withTwo (.primitive p) fun a b => do
    let x ← a.expectNumber (.primitive p)
    let y ← b.expectNumber (.primitive p)
    pure [.bool (f x y)]

/-- A primitive on two truth values. -/
def logic (p : Primitive) (f : Bool → Bool → Bool) : Machine → Except Fault Machine :=
  Machine.withTwo (.primitive p) fun a b => do
    let x ← a.expectBool (.primitive p)
    let y ← b.expectBool (.primitive p)
    pure [.bool (f x y)]

/-- What a primitive does to a machine, in a mode. -/
def apply (mode : Mode) (p : Primitive) (m : Machine) : Except Fault Machine :=
  let op := Operator.primitive p
  match p with
  | .add => arithmetic p Number.add m
  | .sub => arithmetic p Number.sub m
  | .mul => arithmetic p Number.mul m
  | .div => division p Number.div m
  | .mod => division p Number.mod m
  | .lt => comparison p Number.lt m
  | .gt => comparison p Number.gt m
  | .eq => comparison p Number.eq m
  | .neg => m.withOne op fun a => (a.expectNumber op).map fun x => [.number x.neg]
  | .put => m.put
  | .length =>
    m.withOne op fun a =>
      (a.expectArray op).map fun r => [.number (.int (.ofNat (m.store.array r).size))]
  | .get =>
    m.withTwo op fun a i =>
      (m.store.element op a i).map fun (r, i) => (m.store.array r)[i]?.toList
  | .and => logic p (· && ·) m
  | .or => logic p (· || ·) m
  | .not => m.withOne op fun a => (a.expectBool op).map fun b => [.bool !b]
  | .dup => m.withOne op fun a => .ok [a, a]
  | .exch => m.withTwo op fun a b => .ok [a, b]
  | .pop => m.withOne op fun _ => .ok []
  | .copy => m.copy
  | .clear => .ok { m with operands := [] }
  | .stack => .ok m.printAll
  | .print => m.printTop
  | .count => .ok (m.push (.number (.int (.ofNat m.operands.length))))
  | .dict => m.newDict
  | .beginScope => m.beginScope mode
  | .endScope => m.endScope
  | .define => m.define

end Primitive

end StackScript

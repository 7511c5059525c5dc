import StackScript.Primitive

/-!
# Control operators

A control operator first checks its operands and takes them from the stack. What it then has to do
is to run a body a number of times, with or without pushing a value before each pass; that is a
`Passes`. So a control operator is a function from machines to passes and machines, and faults of
its operands are told apart from whatever happens once a body runs.

What a loop goes through is settled before its first pass. A counting loop has its three integers,
and a loop over an array keeps the elements the array had, so nothing a body does can change how
often it runs.
-/

namespace StackScript

/-- The runs of a body that a control operator asks for. -/
inductive Passes where
  /-- no run -/
  | none
  /-- one run, with nothing pushed before it -/
  | once (body : List Value)
  /-- one run for each integer of a progression from `start` to `limit`, which is pushed first -/
  | counting (body : List Value) (start step limit : Int64)
  /-- one run for each of the values, which is pushed before it -/
  | each (body : List Value) (values : List Value)

namespace Control

/-- `if` runs its body once or not at all. -/
def prepareIf (m : Machine) : Except Fault (Passes × Machine) :=
  let op := Operator.control .ifTrue
  match m.operands with
  | body :: condition :: rest => do
    let b ← condition.expectBool op
    let body ← body.expectProc op
    pure (if b then .once body else .none, { m with operands := rest })
  | few => .error (.tooFewOperands op 2 few.length)

/-- `ifelse` runs one of its two bodies. -/
def prepareIfElse (m : Machine) : Except Fault (Passes × Machine) :=
  let op := Operator.control .ifElse
  match m.operands with
  | otherwise :: body :: condition :: rest => do
    let b ← condition.expectBool op
    let body ← body.expectProc op
    let otherwise ← otherwise.expectProc op
    pure (.once (if b then body else otherwise), { m with operands := rest })
  | few => .error (.tooFewOperands op 3 few.length)

/-- `for` runs its body once for each integer of a progression. -/
def prepareFor (m : Machine) : Except Fault (Passes × Machine) :=
  let op := Operator.control .forLoop
  match m.operands with
  | body :: limit :: step :: start :: rest => do
    let start ← start.expectInt op
    let step ← step.expectInt op
    let limit ← limit.expectInt op
    let body ← body.expectProc op
    if step.toInt = 0 then .error .zeroStep
    else pure (.counting body start step limit, { m with operands := rest })
  | few => .error (.tooFewOperands op 4 few.length)

/-- `forall` runs its body once for each element of an array of numbers. -/
def prepareForAll (m : Machine) : Except Fault (Passes × Machine) :=
  let op := Operator.control .forAll
  match m.operands with
  | body :: array :: rest =>
    match array with
    | .array r =>
      if array.isNumberArray m.store then do
        let body ← body.expectProc op
        pure (.each body (m.store.array r).toList, { m with operands := rest })
      else .error (.wrongKind op .numberArray array.kind)
    | other => .error (.wrongKind op .numberArray other.kind)
  | few => .error (.tooFewOperands op 2 few.length)

/-- Checks the operands of a control operator, takes them from the stack, and says what is to be
run. -/
def prepare (c : Control) (m : Machine) : Except Fault (Passes × Machine) :=
  match c with
  | .ifTrue => prepareIf m
  | .ifElse => prepareIfElse m
  | .forLoop => prepareFor m
  | .forAll => prepareForAll m

end Control

end StackScript

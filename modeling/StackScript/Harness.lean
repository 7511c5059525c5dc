import StackScript.Machine

/-!
# The operand harness

An operator does its work in steps. Its operands have to be there; a check looks at them where they
lie; they are taken from the stack; and an operation is carried out on the machine without them. The
operation can fail like the check, but by then the operands are gone.

So it has to be told of a failure, too, what machine it leaves behind, and an `Attempt` tells it.
`Machine.operate` is the harness that operators share. Nothing in it puts operands back: that a
fault consumes nothing is up to the checks, which must not let anything through that the operation
would refuse.
-/

namespace StackScript

/-- What an attempt comes to, a result or a fault, and the machine it leaves behind either way. -/
abbrev Attempt (α : Type) : Type :=
  Except Fault α × Machine

/-- Pushes the results of an attempt, of which the last one ends on top. -/
def Attempt.pushed : Attempt (List Value) → Attempt Unit
  | (.ok results, m) => (.ok (), { m with operands := m.operands.pushAll results })
  | (.error f, m) => (.error f, m)

/-- The attempt that a function from machines to machines or faults stands for: its faults leave the
machine as it was. -/
def Attempt.settled (m : Machine) : Except Fault Machine → Attempt Unit
  | .ok after => (.ok (), after)
  | .error f => (.error f, m)

/-- A number of operands at the top of the stack. -/
structure Arity (α : Type) where
  /-- how many there are -/
  count : Nat
  /-- the operands, deepest first, and what lies beneath them; nothing if there are too few -/
  split? : Operands → Option (α × Operands)

namespace Arity

/-- One operand. -/
def one : Arity Value where
  count := 1
  split?
    | a :: rest => some (a, rest)
    | _ => none

/-- Two operands. -/
def two : Arity (Value × Value) where
  count := 2
  split?
    | b :: a :: rest => some ((a, b), rest)
    | _ => none

/-- Three operands. -/
def three : Arity (Value × Value × Value) where
  count := 3
  split?
    | c :: b :: a :: rest => some ((a, b, c), rest)
    | _ => none

/-- Four operands. -/
def four : Arity (Value × Value × Value × Value) where
  count := 4
  split?
    | d :: c :: b :: a :: rest => some ((a, b, c, d), rest)
    | _ => none

end Arity

namespace Machine

/-- Checks the operands of an operator where they lie, takes them, and carries out the operation on
the machine without them. -/
def operate {α β : Type} (m : Machine) (op : Operator) (arity : Arity α)
    (check : Store → α → Except Fault Unit) (operation : α → Machine → Attempt β) : Attempt β :=
  match arity.split? m.operands with
  | none => (.error (.tooFewOperands op arity.count m.operands.length), m)
  | some (operands, rest) =>
    match check m.store operands with
    | .error f => (.error f, m)
    | .ok _ => operation operands { m with operands := rest }

end Machine

end StackScript

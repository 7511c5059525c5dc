import StackScript.Operands
import StackScript.Scopes
import StackScript.Sink
import StackScript.Value.Text

/-!
# The machine

The machine is what operators work on: the operand stack, the scopes, the store and the sink. It is
kept apart from the bookkeeping of a run, the recorded faults and the nesting, which no operator can
touch.
-/

namespace StackScript

/-- What operators work on. -/
structure Machine where
  /-- the operand stack, top first -/
  operands : Operands
  /-- the frames in which names are looked up -/
  scopes : Scopes
  /-- every array and dictionary there is -/
  store : Store
  /-- where printed lines go -/
  sink : Sink

namespace Machine

/-- A machine on which nothing has happened yet. -/
def fresh (sink : Sink) : Machine :=
  ⟨[], .empty, .empty, sink⟩

/-- Pushes a value on the operand stack. -/
def push (m : Machine) (v : Value) : Machine :=
  { m with operands := v :: m.operands }

/-- Prints a value on a line of its own. -/
def print (m : Machine) (v : Value) : Machine :=
  { m with sink := m.sink.println (v.text m.store) }

end Machine

end StackScript

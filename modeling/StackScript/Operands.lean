import StackScript.Value

/-!
# The operand stack

The operand stack is the list of its values from the top down. People write it the other way round,
deepest value first, and so do the operations here that hand out several values at once.
-/

namespace StackScript

/-- The values on the operand stack, top first. -/
abbrev Operands : Type :=
  List Value

namespace Operands

/-- The stack with the deepest value first. -/
def deepestFirst (stack : Operands) : List Value :=
  stack.reverse

/-- Pushes several values, the first one first, so that the last one ends on top. -/
def pushAll (stack : Operands) (values : List Value) : Operands :=
  values.reverse ++ stack

/-- The top `n` values, deepest first, if there are so many. -/
def peek? (stack : Operands) (n : Nat) : Option (List Value) :=
  if n ≤ stack.length then some (stack.take n).reverse else none

/-- The top `n` values, deepest first, and the stack without them, if there are so many. -/
def popMany? (stack : Operands) (n : Nat) : Option (List Value × Operands) :=
  if n ≤ stack.length then some ((stack.take n).reverse, stack.drop n) else none

/-- The stack with its top `n` values on it once more, if there are so many. -/
def duplicateTop? (stack : Operands) (n : Nat) : Option Operands :=
  if n ≤ stack.length then some (stack.take n ++ stack) else none

end Operands

end StackScript

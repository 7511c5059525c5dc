/-!
# The operator catalogue

The language has thirty-one operators, and the catalogue is closed: a program cannot add to it.
They come in two sorts. A *primitive* reads operands, changes the stacks or the arrays, and is done.
A *control* operator runs procedure bodies. The sorts are separate types, because the two are
executed in different ways: only a control operator can enter a body, so only it can be stopped by
something that happens inside one.

Each operator has the symbol it is written with, a title used when a value is inspected, and the
number of operands it always needs.
-/

namespace StackScript

/-- An operator that works on the stacks and the store only. -/
inductive Primitive where
  | add | sub | mul | div | mod | lt | gt | eq | neg
  | put | length | get
  | and | or | not
  | dup | exch | pop | copy | clear | stack | print | count
  | dict | beginScope | endScope | define
  deriving DecidableEq, Repr

/-- An operator that runs procedure bodies. -/
inductive Control where
  | ifTrue | ifElse | forLoop | forAll
  deriving DecidableEq, Repr

/-- A built-in operator of the language. -/
inductive Operator where
  | primitive (p : Primitive)
  | control (c : Control)
  deriving DecidableEq, Repr

namespace Primitive

/-- Every primitive, in catalogue order. -/
def all : List Primitive :=
  [.add, .sub, .mul, .div, .mod, .lt, .gt, .eq, .neg, .put, .length, .get, .and, .or, .not, .dup,
    .exch, .pop, .copy, .clear, .stack, .print, .count, .dict, .beginScope,
    .endScope, .define]

/-- The text that stands for the primitive in a program. -/
def symbol : Primitive → String
  | .add => "add" | .sub => "sub" | .mul => "mul" | .div => "div" | .mod => "mod"
  | .lt => "lt" | .gt => "gt" | .eq => "eq" | .neg => "neg"
  | .put => "put" | .length => "length" | .get => "get"
  | .and => "and" | .or => "or" | .not => "not"
  | .dup => "dup" | .exch => "exch" | .pop => "pop" | .copy => "copy" | .clear => "clear"
  | .stack => "stack" | .print => "=" | .count => "count"
  | .dict => "dict" | .beginScope => "begin" | .endScope => "end" | .define => "def"

/-- The title of the primitive in the inspection form of a value. -/
def title : Primitive → String
  | .add => "Add" | .sub => "Sub" | .mul => "Mul" | .div => "Div" | .mod => "Mod"
  | .lt => "Lt" | .gt => "Gt" | .eq => "Eq" | .neg => "Neg"
  | .put => "Put" | .length => "Length" | .get => "Get"
  | .and => "And" | .or => "Or" | .not => "Not"
  | .dup => "Dup" | .exch => "Exch" | .pop => "Pop" | .copy => "Copy" | .clear => "Clear"
  | .stack => "Stack" | .print => "Print" | .count => "Count"
  | .dict => "Dict" | .beginScope => "Begin" | .endScope => "End" | .define => "Def"

/-- The operands the primitive cannot do without. `copy` needs its count, whatever else the count
then asks for; `begin` may find the operand stack empty. -/
def minOperands : Primitive → Nat
  | .add | .sub | .mul | .div | .mod | .lt | .gt | .eq => 2
  | .neg | .length | .not | .dup | .pop | .copy | .print | .dict => 1
  | .put => 3
  | .get | .and | .or | .exch | .define => 2
  | .clear | .stack | .count | .beginScope | .endScope => 0

end Primitive

namespace Control

/-- Every control operator, in catalogue order. -/
def all : List Control :=
  [.ifTrue, .ifElse, .forLoop, .forAll]

/-- The text that stands for the operator in a program. -/
def symbol : Control → String
  | .ifTrue => "if" | .ifElse => "ifelse" | .forLoop => "for" | .forAll => "forall"

/-- The title of the operator in the inspection form of a value. -/
def title : Control → String
  | .ifTrue => "If" | .ifElse => "IfElse" | .forLoop => "For" | .forAll => "ForAll"

/-- The operands the operator takes. -/
def minOperands : Control → Nat
  | .ifTrue => 2 | .ifElse => 3 | .forLoop => 4 | .forAll => 2

end Control

namespace Operator

/-- Every operator, in catalogue order: the control operators come last. -/
def all : List Operator :=
  Primitive.all.map .primitive ++ Control.all.map .control

/-- The text that stands for the operator in a program. -/
def symbol : Operator → String
  | .primitive p => p.symbol
  | .control c => c.symbol

/-- The title of the operator in the inspection form of a value. -/
def title : Operator → String
  | .primitive p => p.title
  | .control c => c.title

/-- The operands the operator cannot do without. -/
def minOperands : Operator → Nat
  | .primitive p => p.minOperands
  | .control c => c.minOperands

/-- Whether the operator runs procedure bodies. -/
def isControl : Operator → Bool
  | .primitive _ => false
  | .control _ => true

/-- The operator written with a symbol, if there is one. -/
def ofSymbol? (symbol : String) : Option Operator :=
  all.find? fun op => op.symbol == symbol

/-- The catalogue leaves no operator out. -/
theorem mem_all (op : Operator) : op ∈ all := by
  rcases op with p | c
  · cases p <;> decide
  · cases c <;> decide

/-- No two operators are written with the same symbol. -/
theorem symbol_injective {a b : Operator} (h : a.symbol = b.symbol) : a = b := by
  have same : ∀ a ∈ all, ∀ b ∈ all, a.symbol = b.symbol → a = b := by decide
  exact same a (mem_all a) b (mem_all b) h

/-- An operator is found under its own symbol. -/
theorem ofSymbol?_symbol (op : Operator) : ofSymbol? op.symbol = some op := by
  have found : ∀ op ∈ all, ofSymbol? op.symbol = some op := by decide
  exact found op (mem_all op)

end Operator

end StackScript

import StackScript.Kind

/-!
# Values

A value is what a slot of the operand stack, an element of an array or a binding of a dictionary can
hold. Arrays and dictionaries are shared: a value does not contain one but refers to its place in
the store, so that a change made through one reference is seen through all of them, and an array may
come to hold itself. Procedures have no identity; a value contains its body.

The first seven kinds are data. Operators, bare names and unknown symbols are elements of procedure
bodies: running a body acts on them instead of pushing them.
-/

namespace StackScript

/-- The place of an array in the store. -/
structure ArrayRef where
  /-- position among the arrays of the store -/
  index : Nat
  deriving DecidableEq, Repr

/-- The place of a dictionary in the store. -/
structure DictRef where
  /-- position among the dictionaries of the store -/
  index : Nat
  deriving DecidableEq, Repr

/-- Everything that can be held, bound or executed. -/
inductive Value where
  /-- an integer or a real -/
  | number (n : Number)
  /-- a truth value -/
  | bool (b : Bool)
  /-- a name literal -/
  | name (n : Name)
  /-- a reference to an array -/
  | array (r : ArrayRef)
  /-- a procedure -/
  | proc (body : List Value)
  /-- a reference to a dictionary -/
  | dict (r : DictRef)
  /-- an operator -/
  | operator (op : Operator)
  /-- a bare name, looked up when it is executed -/
  | call (n : Name)
  /-- a symbol that means nothing -/
  | unknown (n : Name)

namespace Value

/-- The kind of a value. -/
def kind : Value → Kind
  | .number n => n.kind
  | .bool _ => .boolean
  | .name _ => .name
  | .array _ => .array
  | .proc _ => .procedure
  | .dict _ => .dictionary
  | .operator _ => .operator
  | .call _ => .executableName
  | .unknown _ => .unknownSymbol

/-- Whether the value is a number. -/
def isNumber : Value → Bool
  | .number _ => true
  | _ => false

/-- The value as a double, if it is a number. -/
def toFloat? : Value → Option Float
  | .number n => some n.toFloat
  | _ => none

/-- The value as an integer, if it is one. -/
def toInt? : Value → Option Int64
  | .number n => n.toInt?
  | _ => none

/-- The value as a truth value, if it is one. -/
def toBool? : Value → Option Bool
  | .bool b => some b
  | _ => none

/-- Whether both values are references to the same array or the same dictionary. -/
def isSameCell : Value → Value → Bool
  | .array r, .array t => r == t
  | .dict r, .dict t => r == t
  | _, _ => false

end Value

end StackScript

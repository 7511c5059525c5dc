import StackScript.Kind

/-!
# Faults

A fault is something that goes wrong while a program runs. It says what was wrong; whether the run
goes on is decided elsewhere, by the mode (see `StackScript.Mode`). Only `Fault.message` knows the
wording.
-/

namespace StackScript

/-- What an operator asked its operand to be. -/
inductive Fault.Expected where
  | number | integer | boolean | procedure | array | numberArray | name | dictionary
  deriving DecidableEq, Repr

/-- What can go wrong while a program runs. -/
inductive Fault where
  /-- an operator found fewer operands than it needs -/
  | tooFewOperands (op : Operator) (needed found : Nat)
  /-- an operator found an operand of the wrong kind -/
  | wrongKind (op : Operator) (expected : Fault.Expected) (found : Kind)
  /-- an index or a count is not below the length it refers to -/
  | outOfRange (op : Operator) (index : Int) (length : Nat)
  /-- a division by zero -/
  | byZero (op : Operator)
  /-- a name that may not be defined -/
  | invalidName (name : Name)
  /-- a bare name that is not bound -/
  | notFound (bare : String)
  /-- a bare name that is bound, but to a value that counts as nothing -/
  | falsyBinding (bare : String) (value : String)
  /-- a symbol without meaning was executed -/
  | unknownSymbol (symbol : String)
  /-- there is no scope to leave -/
  | noScope
  /-- a loop that would never get anywhere -/
  | zeroStep
  /-- a body would be entered beyond the limit on nesting -/
  | tooDeep (limit : Nat)
  deriving DecidableEq, Repr

namespace Fault

/-- What was asked for, as it is named in messages. -/
def Expected.label : Expected → String
  | .number => "number"
  | .integer => "integer"
  | .boolean => "boolean"
  | .procedure => "procedure"
  | .array => "array"
  | .numberArray => "numeric array"
  | .name => "name"
  | .dictionary => "dictionary"

/-- A natural number within a message. -/
def natText (n : Nat) : String :=
  String.ofList (Nat.toDigits 10 n)

/-- The wording of a fault. -/
def message : Fault → String
  | .tooFewOperands op needed found =>
    "stack underflow: `" ++ op.symbol ++ "` needs " ++ natText needed ++ " operand(s), found " ++
      natText found
  | .wrongKind op expected found =>
    "type mismatch: `" ++ op.symbol ++ "` expected " ++ expected.label ++ ", found " ++ found.label
  | .outOfRange op index length =>
    "range check: `" ++ op.symbol ++ "` got " ++ String.ofList (Number.intChars index) ++
      ", valid range is 0.." ++ natText length
  | .byZero op => "undefined result: `" ++ op.symbol ++ "` by zero"
  | .invalidName name =>
    "invalid name `" ++ name.text ++ "`: expected `/`, a letter, then letters or digits"
  | .notFound bare => "name not found: `" ++ bare ++ "`"
  | .falsyBinding bare value =>
    "name `" ++ bare ++ "` is bound to `" ++ value ++ "`, which is treated as not found"
  | .unknownSymbol symbol => "invalid input: `" ++ symbol ++ "`"
  | .noScope => "dictionary stack underflow: `end` without a matching `begin`"
  | .zeroStep => "`for` step must not be zero"
  | .tooDeep limit => "maximum recursion depth exceeded (limit: " ++ natText limit ++ ")"

end Fault

end StackScript

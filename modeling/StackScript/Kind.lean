import StackScript.Program

/-!
# Kinds of values

Every value, and every term of a program, is of one of ten kinds. A fault about an operand of the
wrong kind names the kind it found, and listings of programs name the kind of each term.
-/

namespace StackScript

/-- The kinds of values. The last three occur only in programs and procedure bodies. -/
inductive Kind where
  | integer | real | boolean | name | array | procedure | dictionary
  | operator | executableName | unknownSymbol
  deriving DecidableEq, Repr

namespace Kind

/-- The kind as it is named in messages. -/
def label : Kind → String
  | .integer => "integer"
  | .real => "real"
  | .boolean => "boolean"
  | .name => "name"
  | .array => "array"
  | .procedure => "procedure"
  | .dictionary => "dictionary"
  | .operator => "operator"
  | .executableName => "executable name"
  | .unknownSymbol => "unknown symbol"

end Kind

/-- The kind of a number. -/
def Number.kind : Number → Kind
  | .int _ => .integer
  | .real _ => .real

/-- The kind of the value that a term stands for. -/
def Term.kind : Term → Kind
  | .number n => n.kind
  | .bool _ => .boolean
  | .name _ => .name
  | .array _ => .array
  | .proc _ => .procedure
  | .operator _ => .operator
  | .call _ => .executableName
  | .unknown _ => .unknownSymbol

end StackScript

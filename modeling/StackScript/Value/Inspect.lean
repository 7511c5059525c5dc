import StackScript.Value.Writer

/-!
# Values under inspection

The inspection form of a value shows everything there is to it: the kind at every level, names
between quotes, and the bindings of dictionaries. Arrays and dictionaries are shown as shared cells;
a cell that is being shown already is cut short and stands as `Shared(..)`. The way this is put
together, and why it ends, is the same as for printing (see `StackScript.Value.Text`), except that
dictionaries are gone into as well.
-/

namespace StackScript

/-- A place in the store. -/
inductive Cell where
  /-- the place of an array -/
  | array (r : ArrayRef)
  /-- the place of a dictionary -/
  | dict (r : DictRef)
  deriving DecidableEq, Repr

namespace Value

/-- A title with its argument in parentheses. -/
def titled (title : String) (argument : List Char) : List Char :=
  title.toList ++ '(' :: argument ++ [')']

mutual

/-- Writes the inspection form of a value, where it is given how a shared cell is written. -/
def inspectWith (cell : Cell → Writer Cell (List Char)) : Value → Writer Cell (List Char)
  | .number (.int n) => pure (titled "Int" (Number.int n).inspectChars)
  | .number (.real x) => pure (titled "Real" (Number.real x).inspectChars)
  | .bool b => pure (titled "Bool" (if b then "true" else "false").toList)
  | .name n => pure (titled "Name" n.inspectChars)
  | .array r => titled "Array" <$> cell (.array r)
  | .proc body => do
    let inside ← inspectAllWith cell body
    return titled "Proc" (titled "Procedure" ('[' :: inside ++ [']']))
  | .dict r => titled "Dict" <$> cell (.dict r)
  | .operator op => pure (titled "Operator" op.title.toList)
  | .call n => pure (titled "Call" n.inspectChars)
  | .unknown n => pure (titled "Unknown" n.inspectChars)

/-- Writes the inspection forms of several values, with a comma between one and the next. -/
def inspectAllWith (cell : Cell → Writer Cell (List Char)) :
    List Value → Writer Cell (List Char)
  | [] => pure []
  | [v] => v.inspectWith cell
  | v :: next :: rest => do
    let first ← v.inspectWith cell
    let others ← inspectAllWith cell (next :: rest)
    return first ++ ',' :: ' ' :: others

end

/-- Writes the inspection form of a binding of a dictionary. -/
def inspectBinding (cell : Cell → Writer Cell (List Char)) (entry : Name × Value) :
    Writer Cell (List Char) := do
  let value ← entry.2.inspectWith cell
  return entry.1.inspectChars ++ ':' :: ' ' :: value

/-- Writes the inspection forms of bindings, with a comma between one and the next. -/
def inspectBindings (cell : Cell → Writer Cell (List Char)) :
    List (Name × Value) → Writer Cell (List Char)
  | [] => pure []
  | [entry] => inspectBinding cell entry
  | entry :: next :: rest => do
    let first ← inspectBinding cell entry
    let others ← inspectBindings cell (next :: rest)
    return first ++ ',' :: ' ' :: others

end Value

namespace Store

/-- Writes the inspection form of what is in a shared cell. The bindings of a dictionary, which have
no order of their own, are shown in that of their keys. -/
def inspectContents (s : Store) (cell : Cell → Writer Cell (List Char)) :
    Cell → Writer Cell (List Char)
  | .array r => do
    let inside ← Value.inspectAllWith cell (s.array r).toList
    return Value.titled "Shared" ('[' :: inside ++ [']'])
  | .dict r => do
    let inside ← Value.inspectBindings cell (s.dict r).sorted
    return Value.titled "Shared" ('{' :: inside ++ ['}'])

/-- What stands for a shared cell inside itself. -/
def sharedEllipsis : List Char :=
  Value.titled "Shared" ['.', '.']

/-- Writes the inspection form of a shared cell. The budget bounds how many cells can be opened
within each other. -/
def inspectCell (s : Store) : Nat → Cell → Writer Cell (List Char)
  | 0, _ => pure sharedEllipsis
  | budget + 1, cell =>
    Writer.once cell sharedEllipsis (s.inspectContents (s.inspectCell budget) cell)

/-- As many cells as can be open at once: each array and each dictionary of the store, and one that
is none of them, which is empty. -/
def inspectBudget (s : Store) : Nat :=
  s.arrays.size + s.dicts.size + 1

end Store

namespace Value

/-- The inspection form of a value, with the bindings of every dictionary in the order of their
keys. -/
def inspect (s : Store) (v : Value) : String :=
  String.ofList ((v.inspectWith (s.inspectCell s.inspectBudget)).run []).1

end Value

end StackScript

import StackScript.Value.Writer

/-!
# Values as text

A value is printed on one line: an array within brackets and a procedure within braces, elements
separated by single spaces; a dictionary as `-dict-`. An array that is being printed already is cut
short and stands as `[...]`. An array that merely occurs twice is printed twice.

Only arrays lead out of a value into the store, so printing is put together from two parts.
`Value.writeWith` goes through one value and is told how arrays are written; `Store.writeArray`
tells it, by opening an array and going through its elements. Each array can be open once, so the
number of arrays in the store bounds how deep this goes.
-/

namespace StackScript

namespace Value

mutual

/-- Writes a value, where it is given how an array is written. -/
def writeWith (array : ArrayRef → Writer ArrayRef (List Char)) : Value → Writer ArrayRef (List Char)
  | .number n => pure n.chars
  | .bool b => pure (if b then "true" else "false").toList
  | .name n | .call n | .unknown n => pure n.chars
  | .array r => array r
  | .proc body => do
    let inside ← writeSpacedWith array body
    return '{' :: inside ++ ['}']
  | .dict _ => pure "-dict-".toList
  | .operator op => pure op.symbol.toList

/-- Writes several values, with a space between one and the next. -/
def writeSpacedWith (array : ArrayRef → Writer ArrayRef (List Char)) :
    List Value → Writer ArrayRef (List Char)
  | [] => pure []
  | [v] => v.writeWith array
  | v :: next :: rest => do
    let first ← v.writeWith array
    let others ← writeSpacedWith array (next :: rest)
    return first ++ ' ' :: others

end

end Value

namespace Store

/-- What stands for an array inside itself. -/
def ellipsis : List Char :=
  "[...]".toList

/-- Writes an array. The budget bounds how many arrays can be opened within each other. -/
def writeArray (s : Store) : Nat → ArrayRef → Writer ArrayRef (List Char)
  | 0, _ => pure ellipsis
  | budget + 1, r =>
    Writer.once r ellipsis do
      let inside ← Value.writeSpacedWith (s.writeArray budget) (s.array r).toList
      return '[' :: inside ++ [']']

/-- As many arrays as can be open at once: each array of the store, and one that is none of them,
which has no elements. -/
def printBudget (s : Store) : Nat :=
  s.arrays.size + 1

end Store

namespace Value

/-- The characters of a value that is printed on its own. -/
def chars (s : Store) (v : Value) : List Char :=
  ((v.writeWith (s.writeArray s.printBudget)).run []).1

/-- The printed form of a value. -/
def text (s : Store) (v : Value) : String :=
  String.ofList (v.chars s)

end Value

end StackScript

import StackScript.Store

/-!
# Properties of values that depend on the store

Whether an array or a dictionary is empty, and whether an array holds only numbers, is a question
about the store, not about the reference.
-/

namespace StackScript.Value

/-- Whether the value is zero, false, or something without content: an empty array, procedure or
dictionary. In one of the two modes a name that is bound to such a value counts as not bound. -/
def isFalsy (s : Store) : Value → Bool
  | .number n => n.isZero
  | .bool b => !b
  | .array r => (s.array r).isEmpty
  | .proc body => body.isEmpty
  | .dict r => (s.dict r).isEmpty
  | .name _ | .operator _ | .call _ | .unknown _ => false

/-- Whether the value is an array all of whose elements are numbers. -/
def isNumberArray (s : Store) : Value → Bool
  | .array r => (s.array r).all Value.isNumber
  | _ => false

end StackScript.Value

import StackScript.Value.Inspect

/-!
# Equality of values

Two values are equal when nothing that a program could get out of them tells them apart: arrays of
the same length with equal elements, dictionaries that bind the same names to equal values,
procedures with equal bodies. Where both sides refer to the same cell of the store there is nothing
to compare.

Cells may contain themselves, so a comparison can come back to a pair of cells that is being
compared already. Such a pair counts as equal: whatever difference there is between them shows up
elsewhere in the comparison that is under way.

As for printing, the comparison is put together from two parts: `Value.equalWith` goes through two
values and is told how pairs of cells compare, and `Store.equalCells` tells it. A pair can be taken
up once, so the number of pairs bounds how deep the comparison goes.
-/

namespace StackScript

/-- Two places in the store whose contents are compared, of arrays or of dictionaries. -/
inductive CellPair where
  /-- two arrays -/
  | arrays (r t : ArrayRef)
  /-- two dictionaries -/
  | dicts (r t : DictRef)
  deriving DecidableEq, Repr

/-- Whether both places of a pair are the same. -/
def CellPair.isIdentical : CellPair → Bool
  | .arrays r t => r == t
  | .dicts r t => r == t

namespace Value

mutual

/-- Equality of two values, where the equality of cells is given. -/
def equalWith (cells : CellPair → Bool) : Value → Value → Bool
  | .number a, .number b => a == b
  | .bool a, .bool b => a == b
  | .name a, .name b => a == b
  | .array r, .array t => cells (.arrays r t)
  | .proc as, .proc bs => equalAllWith cells as bs
  | .dict r, .dict t => cells (.dicts r t)
  | .operator a, .operator b => a == b
  | .call a, .call b => a == b
  | .unknown a, .unknown b => a == b
  | _, _ => false

/-- Equality of two sequences of values: of the same length, and equal value by value. -/
def equalAllWith (cells : CellPair → Bool) : List Value → List Value → Bool
  | [], [] => true
  | a :: as, b :: bs => equalWith cells a b && equalAllWith cells as bs
  | _, _ => false

end

end Value

/-- Equality of two dictionaries, where the equality of cells is given: as many bindings on either
side, and each name of the first bound to an equal value in the second. -/
def Dictionary.equalWith (cells : CellPair → Bool) (d e : Dictionary) : Bool :=
  d.size == e.size && d.entries.all fun entry =>
    match e.get? entry.1 with
    | some v => Value.equalWith cells entry.2 v
    | none => false

namespace Store

/-- Equality of the contents of two cells, while the pairs of `pending` are being compared. -/
def equalCells (s : Store) : Nat → List CellPair → CellPair → Bool
  | 0, _, _ => true
  | budget + 1, pending, pair =>
    if pair.isIdentical || pending.contains pair then true
    else
      let inner := s.equalCells budget (pair :: pending)
      match pair with
      | .arrays r t => Value.equalAllWith inner (s.array r).toList (s.array t).toList
      | .dicts r t => (s.dict r).equalWith inner (s.dict t)

/-- As many pairs as can be pending at once: every pair of arrays and every pair of dictionaries of
the store, and one with a place that was never handed out. -/
def compareBudget (s : Store) : Nat :=
  s.arrays.size * s.arrays.size + s.dicts.size * s.dicts.size + 1

end Store

namespace Value

/-- Equality of two values. -/
def equal (s : Store) (a b : Value) : Bool :=
  a.equalWith (s.equalCells s.compareBudget []) b

end Value

end StackScript

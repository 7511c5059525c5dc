/-!
# Sets of characters given by ranges of code points

A character property is published as a list of code point ranges. A table here is such a list, in
ascending order, and a character belongs to it when its code point lies in one of the ranges.
-/

namespace StackScript.Text

/-- A set of code points, as inclusive ranges in ascending order. -/
abbrev CodePoints : Type := List (Nat × Nat)

namespace CodePoints

/-- Whether the code point of `c` lies in one of the ranges. -/
def contains (table : CodePoints) (c : Char) : Bool :=
  table.any fun range => range.1 ≤ c.toNat && c.toNat ≤ range.2

end CodePoints

end StackScript.Text

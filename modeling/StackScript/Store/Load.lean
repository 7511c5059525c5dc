import StackScript.Store

/-!
# Making a program ready to run

A program as it is read is a tree of terms without identities. To be run it becomes a list of
values: each array literal, at whatever depth, is given an array of its own in the store, and
everything else is carried over as it is. An array literal inside a procedure is thus allocated
once, when the program is loaded, and not again each time the procedure runs: a change made to it in
one call is seen by the next.
-/

namespace StackScript

namespace NumberTree

mutual

/-- The value of a tree, with every array in it newly allocated. -/
def load (s : Store) : NumberTree → Value × Store
  | .leaf n => (.number n, s)
  | .node items =>
    let (values, s) := loadAll s items
    let (r, s) := s.allocArray values.toArray
    (.array r, s)

/-- The values of several trees, in order. -/
def loadAll (s : Store) : List NumberTree → List Value × Store
  | [] => ([], s)
  | tree :: rest =>
    let (v, s) := tree.load s
    let (values, s) := loadAll s rest
    (v :: values, s)

end

end NumberTree

namespace Term

mutual

/-- The value of a term, with every array in it newly allocated. -/
def load (s : Store) : Term → Value × Store
  | .number n => (.number n, s)
  | .bool b => (.bool b, s)
  | .name n => (.name n, s)
  | .array items => (NumberTree.node items).load s
  | .proc body =>
    let (values, s) := loadAll s body
    (.proc values, s)
  | .operator op => (.operator op, s)
  | .call n => (.call n, s)
  | .unknown n => (.unknown n, s)

/-- The values of several terms, in order. -/
def loadAll (s : Store) : List Term → List Value × Store
  | [] => ([], s)
  | term :: rest =>
    let (v, s) := term.load s
    let (values, s) := loadAll s rest
    (v :: values, s)

end

end Term

/-- The values of a program, and the store with the arrays of the program in it. -/
def Program.load (s : Store) (p : Program) : List Value × Store :=
  Term.loadAll s p.items

end StackScript

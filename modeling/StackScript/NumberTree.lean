import StackScript.Number

/-!
# Nested arrays of numbers

An array literal of a program denotes a tree: its leaves are numbers and its inner nodes are arrays.
A tree is a plain value. Only when a program is made ready to run does each node become an array of
its own in the store, with an identity that other values can share.

A tree is written with its elements separated by single spaces, inside brackets.
-/

namespace StackScript

/-- A number, or an array of such trees. -/
inductive NumberTree where
  /-- a single number -/
  | leaf (n : Number)
  /-- an array of trees -/
  | node (items : List NumberTree)

namespace NumberTree

mutual

/-- The tree as text. -/
def chars : NumberTree → List Char
  | .leaf n => n.chars
  | .node items => '[' :: spaced items ++ [']']

/-- Several trees as text, with a space between one and the next. -/
def spaced : List NumberTree → List Char
  | [] => []
  | [tree] => tree.chars
  | tree :: next :: rest => tree.chars ++ ' ' :: spaced (next :: rest)

end

mutual

/-- Equality of trees: the same shape, with equal numbers at the leaves. -/
protected def beq : NumberTree → NumberTree → Bool
  | .leaf a, .leaf b => a == b
  | .node as, .node bs => beqAll as bs
  | _, _ => false

/-- Equality of lists of trees, tree by tree. -/
def beqAll : List NumberTree → List NumberTree → Bool
  | [], [] => true
  | a :: as, b :: bs => a.beq b && beqAll as bs
  | _, _ => false

end

instance : BEq NumberTree := ⟨NumberTree.beq⟩

end NumberTree

end StackScript

import StackScript.NumberTree
import StackScript.Token.Array

/-!
# The grammar of array literals

An array literal is one group of matching brackets whose other tokens are all numbers. Reading goes
through the tokens once, from left to right, and keeps the arrays that are still open on a stack, so
the error it reports is always the first one in the text. When the tokens run out while arrays are
open, it is the innermost of them that is reported.
-/

namespace StackScript.NumberTree

/-- An array that is still being read. -/
structure OpenArray where
  /-- where its opening bracket stands -/
  span : Span
  /-- the elements so far, the last one first -/
  read : List NumberTree

/-- The error of a token that cannot stand where it stands. -/
def unexpected (token : ArrayToken) : ParseError :=
  match token.kind with
  | .closing => ⟨.strayBracket, token.span⟩
  | _ => ⟨.notANumber token.text, token.span⟩

/-- The number that a word of a literal stands for. -/
def readNumber (token : ArrayToken) : Except ParseError Number :=
  match token.kind, Number.read token.text.toList with
  | .number, .value n => .ok n
  | .number, .overflow => .error ⟨.integerTooLarge token.text, token.span⟩
  | _, _ => .error (unexpected token)

/-- Reads on inside the array `inner`, which lies within the arrays of `outer`, innermost first, to
the end of the outermost one. Nothing may follow that. -/
def readInside (outer : List OpenArray) (inner : OpenArray) :
    List ArrayToken → Except ParseError (List NumberTree)
  | [] => .error ⟨.openBracket, inner.span⟩
  | token :: rest =>
    match token.kind, outer, rest with
    | .opening, _, _ => readInside (inner :: outer) ⟨token.span, []⟩ rest
    | .closing, around :: outer, _ =>
      readInside outer { around with read := .node inner.read.reverse :: around.read } rest
    | .closing, [], [] => .ok inner.read.reverse
    | .closing, [], extra :: _ => .error (unexpected extra)
    | _, _, _ =>
      match readNumber token with
      | .ok n => readInside outer { inner with read := .leaf n :: inner.read } rest
      | .error e => .error e

/-- Reads the elements of an array literal that starts at the given offset of the program. -/
def ofLiteral (literal : String) (offset : Nat) : Except ParseError (List NumberTree) :=
  match ArrayToken.scan literal offset with
  | [] => .error ⟨.openBracket, .point offset⟩
  | token :: rest =>
    match token.kind with
    | .opening => readInside [] ⟨token.span, []⟩ rest
    | _ => .error (unexpected token)

end StackScript.NumberTree

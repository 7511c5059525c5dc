import StackScript.Name
import StackScript.NumberTree
import StackScript.Operator

/-!
# Programs

A program is a sequence of terms, and a term is anything that can stand in one: a number, a truth
value, a name literal, an array of numbers, a block of further terms, or something to be executed.
Programs are plain trees without identities; running one begins by giving every array in it a place
in the store.

`Program.text` writes a program back as text, in one line with single spaces.
-/

namespace StackScript

/-- One element of a program. -/
inductive Term where
  /-- a number literal -/
  | number (n : Number)
  /-- `true` or `false` -/
  | bool (b : Bool)
  /-- a name literal, with its marker -/
  | name (n : Name)
  /-- an array literal -/
  | array (items : List NumberTree)
  /-- a block between braces -/
  | proc (body : List Term)
  /-- an operator -/
  | operator (op : Operator)
  /-- a bare name, to be looked up -/
  | call (n : Name)
  /-- a symbol that means nothing -/
  | unknown (n : Name)

/-- A sequence of terms. -/
structure Program where
  /-- the terms, in order -/
  items : List Term

namespace Term

mutual

/-- The term as text. -/
def chars : Term → List Char
  | .number n => n.chars
  | .bool b => (if b then "true" else "false").toList
  | .name n | .call n | .unknown n => n.chars
  | .array items => '[' :: NumberTree.spaced items ++ [']']
  | .proc body => '{' :: spaced body ++ ['}']
  | .operator op => op.symbol.toList

/-- Several terms as text, with a space between one and the next. -/
def spaced : List Term → List Char
  | [] => []
  | [term] => term.chars
  | term :: next :: rest => term.chars ++ ' ' :: spaced (next :: rest)

end

mutual

/-- Equality of terms: the same kind of term, with equal contents. -/
protected def beq : Term → Term → Bool
  | .number a, .number b => a == b
  | .bool a, .bool b => a == b
  | .name a, .name b => a == b
  | .array as, .array bs => NumberTree.beqAll as bs
  | .proc as, .proc bs => beqAll as bs
  | .operator a, .operator b => a == b
  | .call a, .call b => a == b
  | .unknown a, .unknown b => a == b
  | _, _ => false

/-- Equality of lists of terms, term by term. -/
def beqAll : List Term → List Term → Bool
  | [], [] => true
  | a :: as, b :: bs => a.beq b && beqAll as bs
  | _, _ => false

end

instance : BEq Term := ⟨Term.beq⟩

end Term

namespace Program

/-- Equality of programs, term by term. -/
protected def beq (p q : Program) : Bool :=
  Term.beqAll p.items q.items

instance : BEq Program := ⟨Program.beq⟩

/-- The program written back as text. -/
def text (p : Program) : String :=
  String.ofList (Term.spaced p.items)

end Program

end StackScript

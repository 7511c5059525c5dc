import StackScript.Span

/-!
# Parse errors

A program that is not well formed is not run at all; the front end answers with the one reason why
not and the place where it was noticed. The reasons are causes, not texts: the wording is in
`ParseError.message` and, for the mark under a source line, in `ParseError.label`.

Two of the causes concern the same mistake at different stages. `arrayNotClosed` is what scanning a
program finds when a literal never ends; `openBracket` is what the grammar of array literals finds
when it is given such a literal directly.
-/

namespace StackScript

/-- Why a text is not a program. -/
inductive ParseError.Cause where
  /-- scanning came to the end of the text inside an array literal -/
  | arrayNotClosed
  /-- scanning met a character inside an array literal that cannot stand there -/
  | arrayCharacter (c : Char)
  /-- a closing brace without an open block -/
  | strayBrace
  /-- a block that is still open at the end -/
  | openBlock
  /-- a closing bracket without an open array -/
  | strayBracket
  /-- an array that is still open at the end of a literal -/
  | openBracket
  /-- an array element that is not a number -/
  | notANumber (text : String)
  /-- an integer that does not fit in 64 bits -/
  | integerTooLarge (text : String)
  deriving DecidableEq, Repr

/-- A cause together with the place in the program where it was noticed. -/
structure ParseError where
  /-- what is wrong -/
  cause : ParseError.Cause
  /-- where it was noticed -/
  span : Span
  deriving DecidableEq, Repr

namespace ParseError

/-- The wording of a parse error. -/
def message (e : ParseError) : String :=
  match e.cause with
  | .arrayNotClosed => "unclosed array literal"
  | .arrayCharacter c => "character `" ++ c.toString ++ "` is not allowed inside an array literal"
  | .strayBrace => "unmatched `\x7d`"
  | .openBlock => "unclosed `\x7b`: code block is never closed"
  | .strayBracket => "unmatched `]`"
  | .openBracket => "unclosed `[`: array literal is never closed"
  | .notANumber text => "array literals may only contain numbers, found `" ++ text ++ "`"
  | .integerTooLarge text => "integer literal `" ++ text ++ "` does not fit in 64 bits"

/-- What is written beside the mark under the source line. -/
def label (e : ParseError) : String :=
  match e.cause with
  | .arrayNotClosed | .arrayCharacter _ => "while scanning this"
  | .strayBrace => "this `\x7d` closes nothing"
  | .openBlock => "this `\x7b` is never closed"
  | .strayBracket => "this `]` closes nothing"
  | .openBracket => "this `[` is never closed"
  | .notANumber _ => "not a number"
  | .integerTooLarge _ => "out of range"

end ParseError

end StackScript

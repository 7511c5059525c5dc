import StackScript.NumberTree.Literal
import StackScript.Program

/-!
# The meaning of a single word

A word is the text of one token. What it means depends on the text alone, and the possibilities are
tried in a fixed order: a number, a truth value, an array literal, an operator, a name literal, a
bare name. A word that is none of these is an unknown symbol; that is an error only if it is
executed.
-/

namespace StackScript.Term

/-- The meaning of a word that is neither a number nor a truth value nor an array literal. -/
def ofSymbol (word : String) : Term :=
  match Operator.ofSymbol? word with
  | some op => .operator op
  | none =>
    if (Name.mk word).isLiteral then .name ⟨word⟩
    else if Name.isIdentifier word.toList then .call ⟨word⟩
    else .unknown ⟨word⟩

/-- The meaning of a word that stands at the given place. -/
def ofWord (word : String) (span : Span) : Except ParseError Term :=
  match Number.read word.toList with
  | .value n => .ok (.number n)
  | .overflow => .error ⟨.integerTooLarge word, span⟩
  | .other =>
    if word = "true" then .ok (.bool true)
    else if word = "false" then .ok (.bool false)
    else if word.toList.head? = some '[' then
      (NumberTree.ofLiteral word span.start).map .array
    else .ok (ofSymbol word)

/-- The meaning of a word that is given by itself, so that its place is all of it. -/
def ofLoneWord (word : String) : Except ParseError Term :=
  ofWord word ⟨0, word.utf8ByteSize⟩

end StackScript.Term

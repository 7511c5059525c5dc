import StackScript.Program.Word

/-!
# From tokens to programs

A run of braces is one token; here it falls apart into single braces, and the braces of the whole
program are paired. Every other token is a term by itself. As with array literals the tokens are
gone through once, with the open blocks on a stack, so the first error in the text is the one that
is reported; only if there is none, and blocks remain open at the end, is the innermost of them
reported.

`Program.parse` is the whole front end: scanning, then pairing.
-/

namespace StackScript

/-- What the grammar of blocks sees: single braces, and tokens that are terms. -/
inductive Program.Item where
  /-- a brace that opens a block -/
  | opening (span : Span)
  /-- a brace that closes a block -/
  | closing (span : Span)
  /-- any other token -/
  | atom (token : Token)

namespace Program

/-- Single braces out of a run of them, whose first byte has the given offset. -/
def Item.ofBraces (offset : Nat) : List Char → List Item
  | [] => []
  | c :: rest =>
    (if c = '{' then .opening (.point offset) else .closing (.point offset)) ::
      ofBraces (offset + c.utf8Size) rest

/-- The items of one token. -/
def Item.ofToken (token : Token) : List Item :=
  match token.kind with
  | .braces => ofBraces token.span.start token.text.toList
  | _ => [.atom token]

/-- The term that a token other than a brace stands for. -/
def readAtom (token : Token) : Except ParseError Term :=
  match token.kind with
  | .closeBracket => .error ⟨.strayBracket, token.span⟩
  | .arrayLiteral => (NumberTree.ofLiteral token.text token.span.start).map .array
  | _ => Term.ofWord token.text token.span

/-- A block that is still being read. -/
structure OpenBlock where
  /-- where its opening brace stands -/
  span : Span
  /-- the terms that stand before the block in what encloses it, the last one first -/
  before : List Term

/-- Reads on inside the blocks of `blocks`, innermost first, to the end of the program. The terms
read so far in the innermost of them are in `done`, the last one first. -/
def readBlocks (blocks : List OpenBlock) (done : List Term) :
    List Item → Except ParseError (List Term)
  | [] =>
    match blocks with
    | [] => .ok done.reverse
    | inner :: _ => .error ⟨.openBlock, inner.span⟩
  | .opening span :: rest => readBlocks (⟨span, done⟩ :: blocks) [] rest
  | .closing span :: rest =>
    match blocks with
    | [] => .error ⟨.strayBrace, span⟩
    | inner :: outer => readBlocks outer (.proc done.reverse :: inner.before) rest
  | .atom token :: rest =>
    match readAtom token with
    | .ok term => readBlocks blocks (term :: done) rest
    | .error e => .error e

/-- Pairs the braces of a token sequence and reads every other token as a term. -/
def ofTokens (tokens : List Token) : Except ParseError Program :=
  (readBlocks [] [] (tokens.flatMap Item.ofToken)).map Program.mk

/-- Reads a program text. -/
def parse (source : String) : Except ParseError Program :=
  match Token.scan source with
  | .ok tokens => ofTokens tokens
  | .error e => .error e

end Program

end StackScript

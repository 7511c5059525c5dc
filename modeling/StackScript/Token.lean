import StackScript.Name
import StackScript.ParseError
import StackScript.Text.Blank
import StackScript.Text.Bytes

/-!
# Tokens of a program

A program text is cut into tokens. Blanks separate tokens, and a comment, from `%` to the end of its
line, counts as a blank. Everything else belongs to exactly one token: at each position the class
with the longest match wins, and the class of single symbols, which matches any character, gives way
to every other class of the same length.

An array literal is one token, brackets and all: from `[` to the bracket that closes it. It is the
only token that can be malformed, so scanning fails only inside one (`Token.scan`). The literal is
taken apart later, see `StackScript.Token.Array`.

Each class says by `Class.reach` how far beyond its first character it extends, so a token is never
empty and scanning makes progress by construction.
-/

namespace StackScript

/-- The lexical classes of a program. -/
inductive Token.Class where
  /-- a name, with or without its marker -/
  | name
  /-- an array literal with everything inside it -/
  | arrayLiteral
  /-- a closing bracket outside any array literal -/
  | closeBracket
  /-- digits, with an optional minus sign -/
  | integer
  /-- digits around a point, with an optional minus sign -/
  | real
  /-- a run of braces, opening or closing -/
  | braces
  /-- any other character, alone -/
  | symbol
  deriving DecidableEq, Repr

/-- The class as it is named in listings. -/
def Token.Class.label : Token.Class → String
  | .name => "Name"
  | .arrayLiteral => "ArrayLiteral"
  | .closeBracket => "CloseBracket"
  | .integer => "Integer"
  | .real => "Real"
  | .braces => "Braces"
  | .symbol => "Symbol"

/-- A piece of program text with its class and its place. -/
structure Token where
  /-- the lexical class -/
  kind : Token.Class
  /-- the characters, exactly as they stand in the program -/
  text : String
  /-- the bytes that the characters take in the program -/
  span : Span
  deriving DecidableEq, Repr

namespace Token

/-! ## Array literals -/

/-- Whether a character may stand between the brackets of an array literal. What may stand there is
more than what makes sense there: letters, for one, are let through and rejected as elements. -/
def isArrayCharacter (c : Char) : Bool :=
  c.isAlphanum || Text.isBlank c || c == '.' || c == '-' || c == '_' || c == '!'

/-- What follows an opening bracket. Lengths count the characters after that bracket. -/
inductive Capture where
  /-- the matching bracket is the last of so many characters -/
  | closed (length : Nat)
  /-- after so many characters comes one that may not stand there -/
  | invalid (length : Nat) (c : Char)
  /-- the text ends first -/
  | unclosed
  deriving DecidableEq, Repr

/-- The same finding, one character further from the bracket. -/
def Capture.later : Capture → Capture
  | .closed length => .closed (length + 1)
  | .invalid length c => .invalid (length + 1) c
  | .unclosed => .unclosed

/-- Follows an array literal from behind its opening bracket to the bracket that closes it, where
`inner` brackets inside it are open already. -/
def capture (inner : Nat) : List Char → Capture
  | [] => .unclosed
  | c :: rest =>
    if c = '[' then (capture (inner + 1) rest).later
    else if c = ']' then
      match inner with
      | 0 => .closed 1
      | outer + 1 => (capture outer rest).later
    else if isArrayCharacter c then (capture inner rest).later
    else .invalid 0 c

/-! ## Longest match -/

/-- How many of the characters in `rest` continue an integer that starts with `first`. -/
def integerReach (first : Char) (rest : List Char) : Option Nat :=
  let digits := (rest.takeWhile Char.isDigit).length
  if first.isDigit then some digits
  else if first = '-' ∧ digits ≠ 0 then some digits
  else none

/-- How many of the characters in `rest` continue a real that starts with `first`: an integer, a
point, and at least one digit. -/
def realReach (first : Char) (rest : List Char) : Option Nat :=
  match integerReach first rest with
  | none => none
  | some whole =>
    match rest.drop whole with
    | '.' :: fraction =>
      let places := (fraction.takeWhile Char.isDigit).length
      if places = 0 then none else some (whole + 1 + places)
    | _ => none

/-- How many of the characters in `rest` continue a name that starts with `first`. The marker alone
is no name: a letter has to follow it. -/
def nameReach (first : Char) (rest : List Char) : Option Nat :=
  if first.isAlpha then some (rest.takeWhile Name.isIdentifierRest).length
  else if first = Name.marker then
    match rest with
    | letter :: more =>
      if letter.isAlpha then some (1 + (more.takeWhile Name.isIdentifierRest).length) else none
    | [] => none
  else none

/-- Whether a character opens or closes a block. -/
def isBrace (c : Char) : Bool :=
  c == '{' || c == '}'

/-- The longest match of a class at a character that is not blank: how many of the characters after
the first it takes, or `none` if the class does not match there at all. -/
def Class.reach (kind : Class) (first : Char) (rest : List Char) : Option Nat :=
  match kind with
  | .name => nameReach first rest
  | .arrayLiteral =>
    if first = '[' then
      match capture 0 rest with
      | .closed length => some length
      | _ => none
    else none
  | .closeBracket => if first = ']' then some 0 else none
  | .integer => integerReach first rest
  | .real => realReach first rest
  | .braces => if isBrace first then some (rest.takeWhile isBrace).length else none
  | .symbol => some 0

/-- Every class except that of single symbols, which matches wherever no other does. -/
def Class.words : List Class :=
  [.name, .arrayLiteral, .closeBracket, .integer, .real, .braces]

/-- The class with the longest match, and how far it reaches beyond the first character. No two
classes of words match the same length, and any of them is preferred to a single symbol. -/
def longest (first : Char) (rest : List Char) : Class × Nat :=
  Class.words.foldl
    (fun best kind =>
      match kind.reach first rest with
      | some length => if best.2 ≤ length then (kind, length) else best
      | none => best)
    (.symbol, 0)

/-! ## Scanning -/

/-- The token of a class that consists of `first` and the next `length` characters. -/
def cut (kind : Class) (offset : Nat) (first : Char) (rest : List Char) (length : Nat) : Token :=
  let text := first :: rest.take length
  ⟨kind, String.ofList text, ⟨offset, offset + Text.byteLength text⟩⟩

/-- The error of an array literal that starts with `first` and is malformed. It covers the literal
up to the character that may not stand in it, or up to the end of the text. -/
def malformed? (offset : Nat) (first : Char) (rest : List Char) : Option ParseError :=
  if first = '[' then
    match capture 0 rest with
    | .closed _ => none
    | .unclosed => some ⟨.arrayNotClosed, ⟨offset, offset + Text.byteLength (first :: rest)⟩⟩
    | .invalid length c =>
      some ⟨.arrayCharacter c, ⟨offset, offset + Text.byteLength (first :: rest.take length)⟩⟩
  else none

/-- Cuts a text whose first byte has the given offset into tokens. -/
def scanFrom (offset : Nat) : List Char → Except ParseError (List Token)
  | [] => .ok []
  | c :: rest =>
    if Text.isBlank c then scanFrom (offset + c.utf8Size) rest
    else if c = '%' then
      let comment := rest.takeWhile (· ≠ '\n')
      scanFrom (offset + c.utf8Size + Text.byteLength comment) (rest.drop comment.length)
    else
      match malformed? offset c rest with
      | some e => .error e
      | none =>
        let (kind, length) := longest c rest
        let token := cut kind offset c rest length
        (scanFrom token.span.stop (rest.drop length)).map (token :: ·)
termination_by text => text.length
decreasing_by
  · simp
  · simp only [List.length_drop, List.length_cons]; omega
  · simp only [List.length_drop, List.length_cons]; omega

/-- Cuts a program into tokens. It fails only at a malformed array literal. -/
def scan (source : String) : Except ParseError (List Token) :=
  scanFrom 0 source.toList

end Token

end StackScript

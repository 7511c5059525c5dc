import StackScript.Number
import StackScript.Token

/-!
# Tokens of an array literal

An array literal, taken as one token from a program, is cut up again by rules of its own: brackets
stand alone, blanks separate, and whatever lies between is one word. A word that starts like an
integer and goes on with digits and points only counts as a number, even when it is not one, as
`1.2.3`; whether it means anything is decided when it is read. Cutting up a literal never fails.
-/

namespace StackScript

/-- The lexical classes inside an array literal. -/
inductive ArrayToken.Class where
  /-- an opening bracket -/
  | opening
  /-- a closing bracket -/
  | closing
  /-- a word made of digits and points, with an optional minus sign -/
  | number
  /-- any other word -/
  | other
  deriving DecidableEq, Repr

/-- A piece of an array literal with its class and its place in the program. -/
structure ArrayToken where
  /-- the lexical class -/
  kind : ArrayToken.Class
  /-- the characters, exactly as they stand in the literal -/
  text : String
  /-- the bytes that the characters take in the program -/
  span : Span
  deriving DecidableEq, Repr

namespace ArrayToken

/-- Whether a character belongs to a word: neither a blank nor a bracket. -/
def isWordCharacter (c : Char) : Bool :=
  !Text.isBlank c && c != '[' && c != ']'

/-- Whether a word counts as a number: an optional minus sign, a digit, then digits and points. -/
def isNumberWord (word : List Char) : Bool :=
  match (Number.splitSign word).2 with
  | first :: rest => first.isDigit && rest.all fun c => c.isDigit || c == '.'
  | [] => false

/-- The token made of the given characters, whose first byte has the given offset. -/
def ofChars (kind : Class) (offset : Nat) (text : List Char) : ArrayToken :=
  ⟨kind, String.ofList text, ⟨offset, offset + Text.byteLength text⟩⟩

/-- Cuts a literal whose first byte has the given offset into tokens. -/
def scanFrom (offset : Nat) : List Char → List ArrayToken
  | [] => []
  | c :: rest =>
    if Text.isBlank c then scanFrom (offset + c.utf8Size) rest
    else if c = '[' then
      ofChars .opening offset [c] :: scanFrom (offset + c.utf8Size) rest
    else if c = ']' then
      ofChars .closing offset [c] :: scanFrom (offset + c.utf8Size) rest
    else
      let more := rest.takeWhile isWordCharacter
      let word := c :: more
      ofChars (if isNumberWord word then .number else .other) offset word ::
        scanFrom (offset + Text.byteLength word) (rest.drop more.length)
termination_by text => text.length
decreasing_by
  · simp
  · simp
  · simp
  · simp only [List.length_drop, List.length_cons]; omega

/-- Cuts an array literal into tokens. The offset is where the literal starts in the program, so
that the tokens carry places in the program. -/
def scan (literal : String) (offset : Nat) : List ArrayToken :=
  scanFrom offset literal.toList

end ArrayToken

end StackScript

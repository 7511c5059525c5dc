import StackScript.Text.Alphabetic
import StackScript.Text.Quoted

/-!
# Names

A name is a text. One that starts with the marker `/` is a *literal*: a program pushes it and uses
it as the key of a definition. The same text without the marker is the *bare* name, which a program
writes to look the definition up. So a definition made with the literal of a bare name is found
under that bare name (`bare_literal`).

Two shapes of names matter. What may stand in a program as a bare name is an ASCII matter and allows
the underscore (`isIdentifier`); what may be defined allows letters and numbers of every script but
no underscore (`isDefinable`). Neither shape includes the other.
-/

namespace StackScript

/-- A name, with its marker if it has one. -/
structure Name where
  /-- the characters of the name -/
  text : String
  deriving DecidableEq, Repr, Inhabited

namespace Name

/-- The character that turns a name into a literal. -/
def marker : Char :=
  '/'

/-- The literal of a bare name: the key under which it is defined. -/
def literal (bare : String) : Name :=
  ⟨"/" ++ bare⟩

/-- Whether the name starts with the marker. -/
def isLiteral (n : Name) : Bool :=
  n.text.toList.head? == some marker

/-- The name without its marker; a name that has none is its own bare form. -/
def bare (n : Name) : String :=
  match n.text.toList with
  | '/' :: rest => String.ofList rest
  | _ => n.text

/-- Whether the name may be defined: the marker, one letter, then letters and numbers. -/
def isDefinable (n : Name) : Bool :=
  match n.text.toList with
  | '/' :: first :: rest => Text.isAlphabetic first && rest.all Text.isAlphanumeric
  | _ => false

/-- Whether a character may follow the first one of an identifier. -/
def isIdentifierRest (c : Char) : Bool :=
  c.isAlphanum || c == '_'

/-- Whether a text has the shape of a bare name in a program: an ASCII letter, then ASCII letters,
digits and underscores. -/
def isIdentifier : List Char → Bool
  | first :: rest => first.isAlpha && rest.all isIdentifierRest
  | [] => false

/-- The characters of the name. -/
def chars (n : Name) : List Char :=
  n.text.toList

/-- The name as it is shown when a value is inspected. -/
def inspectChars (n : Name) : List Char :=
  "Name(".toList ++ Text.quoted n.chars ++ [')']

/-! ## Marker and bare form -/

/-- Taking the marker off the literal of a bare name gives the bare name back. -/
theorem bare_literal (bare : String) : (literal bare).bare = bare := by
  simp [Name.bare, literal, String.toList_append]

/-- Attaching the marker again to the bare form of a literal gives the literal back. -/
theorem literal_bare {n : Name} (h : n.isLiteral = true) : literal n.bare = n := by
  obtain ⟨text⟩ := n
  rcases htext : text.toList with _ | ⟨c, rest⟩
  · simp [isLiteral, htext] at h
  · obtain rfl : c = '/' := by simpa [isLiteral, htext, marker] using h
    have hbare : Name.bare ⟨text⟩ = String.ofList rest := by simp [Name.bare, htext]
    rw [literal, hbare, Name.mk.injEq, ← String.toList_inj]
    simp [String.toList_append, htext]

/-- Two bare names have the same literal only if they are the same. -/
theorem literal_injective {a b : String} (h : literal a = literal b) : a = b := by
  rw [← bare_literal a, h, bare_literal]

/-- What may be defined is a literal. -/
theorem isLiteral_of_isDefinable {n : Name} (h : n.isDefinable = true) : n.isLiteral = true := by
  unfold isDefinable at h
  split at h
  · next heq => simp [isLiteral, heq, marker]
  · exact absurd h (by simp)

end Name

end StackScript

/-!
# Byte lengths

Positions in a program count bytes of its UTF-8 form, while the program itself is read character by
character. `byteLength` translates: it is the length in bytes of a list of characters, and it is
additive, so the position of a piece of text is the byte length of what stands before it.
-/

namespace StackScript.Text

/-- The number of bytes that the UTF-8 form of a text takes. -/
def byteLength : List Char → Nat
  | [] => 0
  | c :: rest => c.utf8Size + byteLength rest

@[simp] theorem byteLength_nil : byteLength [] = 0 :=
  rfl

@[simp] theorem byteLength_cons (c : Char) (rest : List Char) :
    byteLength (c :: rest) = c.utf8Size + byteLength rest :=
  rfl

@[simp] theorem byteLength_append (before after : List Char) :
    byteLength (before ++ after) = byteLength before + byteLength after := by
  induction before with
  | nil => simp
  | cons c rest ih =>
    rw [List.cons_append, byteLength_cons, byteLength_cons, ih]
    exact (Nat.add_assoc ..).symm

/-- Every character takes at least one byte. -/
theorem length_le_byteLength (text : List Char) : text.length ≤ byteLength text := by
  induction text with
  | nil => simp
  | cons c rest ih =>
    have : 0 < c.utf8Size := c.utf8Size_pos
    simp only [List.length_cons, byteLength_cons]
    omega

end StackScript.Text

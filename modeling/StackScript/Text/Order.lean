/-!
# The order of texts

Texts are ordered as in a dictionary of code points: by the first character in which they differ, a
text before its own continuations. The order is written out here because it has to be the same
wherever a listing of names is produced.
-/

namespace StackScript.Text

/-- Whether the first text does not come after the second. -/
def le : List Char → List Char → Bool
  | [], _ => true
  | _ :: _, [] => false
  | a :: as, b :: bs => a.toNat < b.toNat || (a.toNat == b.toNat && le as bs)

end StackScript.Text

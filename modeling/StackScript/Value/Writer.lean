import StackScript.Store

/-!
# Writing what may contain itself

Arrays and dictionaries are shared cells, and a cell may come to contain itself. Whoever writes
values out keeps account of the cells that are open, those that are being written at the moment. A
cell is opened before its contents are written and closed after them (`Writer.once`). One that is
met while it is open is cut short, which is what ends the writing of a cell that contains itself. A
cell that merely occurs twice is written twice, because it has been closed in between.
-/

namespace StackScript

/-- Writing with account of the cells that are open, the last one first. -/
abbrev Writer (κ : Type) : Type → Type :=
  StateM (List κ)

namespace Writer

/-- Writes something inside a cell, which is open meanwhile. If the cell is open already, a short
text is written instead. -/
def once {κ : Type} [DecidableEq κ] (cell : κ) (short : List Char) (inside : Writer κ (List Char)) :
    Writer κ (List Char) := do
  if cell ∈ (← get) then
    return short
  else
    modify (cell :: ·)
    let text ← inside
    modify (·.erase cell)
    return text

end Writer

end StackScript

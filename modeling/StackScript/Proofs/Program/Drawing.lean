import Mathlib
import StackScript.Proofs.Program.Renderer

/-!
# The drawing of reports

The command line draws excerpts itself (`Excerpt.draw`). Its drawings are read row by row: the
second row names the place, the fourth one shows the line behind its number, and in the fifth one
the mark stands under the line. So read, the drawing takes offsets for counts of characters
(`drawing_countsCharacters`): the row that is drawn for a place is drawn for no other one
(`placeRow_injective`), and the mark is under the characters that are marked and nowhere else
(`markRow_marks`).
-/

namespace StackScript

namespace Text

/-- The character takes one column, wherever it stands. -/
def SingleWidth (c : Char) : Prop :=
  ∀ column, columns c column = 1

/-- The width of a character depends on where it stands for tabs only. -/
theorem singleWidth_iff {c : Char} : SingleWidth c ↔ columns c 0 = 1 := by
  refine ⟨fun h => h 0, fun h column => ?_⟩
  have htab : c ≠ '\t' := by
    rintro rfl
    exact absurd h (by decide)
  rw [columns, if_neg htab] at h ⊢
  exact h

/-- The line as it is to be shown: without the blanks at its end, and with spaces for the others. -/
def plain (line : List Char) : List Char :=
  (trimEnd line).map fun c => if isBlank c then ' ' else c

end Text

namespace Excerpt

open Text (lines plain SingleWidth)

/-! ## Rows -/

/-- The row that says what is wrong. -/
def headerRow (report : Report) : List Char :=
  "Error: ".toList ++ report.message.toList

/-- What stands in front of the rows that carry no line number: as many spaces as the number and
the two spaces around it take. -/
def margin (number : Nat) : List Char :=
  List.replicate ((Nat.toDigits 10 number).length + 2) ' '

/-- The row that names a place by the number of its line and of its column. -/
def placeRow (number column : Nat) : List Char :=
  margin number ++ "╭─[<unknown>:".toList ++
    (Nat.toDigits 10 number ++ ':' :: Nat.toDigits 10 column) ++ [']']

/-- The row with a line of the program, behind its number. -/
def lineRow (number : Nat) (line : List Char) : List Char :=
  ' ' :: Nat.toDigits 10 number ++ " │ ".toList ++ line

/-- A row beside the frame. -/
def sideRow (number : Nat) (text : List Char) : List Char :=
  (margin number ++ ['│', ' ']) ++ text

/-- The output begins with the rows. -/
def BeginsWith (output : String) (rows : List (List Char)) : Prop :=
  ∃ more, output = joinRows (rows ++ more)

section Rows

variable {first : List Char} {rows rows' : List (List Char)}

/-- The first place at which a separator stands is known from the text. -/
theorem append_separator_inj {separator : Char} {front front' back back' : List Char}
    (h : separator ∉ front) (h' : separator ∉ front')
    (heq : front ++ separator :: back = front' ++ separator :: back') :
    front = front' ∧ back = back' := by
  have hlength := congrArg (List.idxOf separator) heq
  rw [List.idxOf_append_of_notMem h, List.idxOf_append_of_notMem h', List.idxOf_cons_self,
    List.idxOf_cons_self] at hlength
  obtain ⟨hfront, hback⟩ := List.append_inj heq hlength
  exact ⟨hfront, (List.cons.inj hback).2⟩

/-- Different numbers are written differently. -/
theorem toDigits_injective {m n : Nat} (h : Nat.toDigits 10 m = Nat.toDigits 10 n) : m = n := by
  rw [← Nat.ofDigitChars_ten_toDigits (n := m), h, Nat.ofDigitChars_ten_toDigits]

/-- What is no digit does not stand in a number. -/
theorem not_mem_toDigits {c : Char} (h : c.isDigit = false) (n : Nat) : c ∉ Nat.toDigits 10 n := by
  intro hmem
  rw [Nat.isDigit_of_mem_toDigits (by decide) (by decide) hmem] at h
  cases h

/-- Every row is ended by a line feed. -/
theorem joinRows_cons (first : List Char) (rows : List (List Char)) :
    (joinRows (first :: rows)).toList = first ++ '\n' :: (joinRows rows).toList := by
  rw [joinRows, joinRows, String.toList_ofList, String.toList_ofList, List.flatMap_cons,
    List.append_assoc, List.singleton_append]

/-- Behind equal rows equal ones follow. -/
theorem joinRows_cons_inj :
    joinRows (first :: rows) = joinRows (first :: rows') ↔ joinRows rows = joinRows rows' := by
  rw [← String.toList_inj, joinRows_cons, joinRows_cons, List.append_cancel_left_eq,
    List.cons.injEq, String.toList_inj]
  exact and_iff_right rfl

/-- The row that names a place takes one row. -/
theorem lineFeed_not_mem_placeRow (number column : Nat) : '\n' ∉ placeRow number column := by
  have hnumber := not_mem_toDigits (c := '\n') rfl number
  have hcolumn := not_mem_toDigits (c := '\n') rfl column
  simp [placeRow, margin, hnumber, hcolumn]

/-- **Different places are named differently.** -/
theorem placeRow_injective {number number' column column' : Nat}
    (h : placeRow number column = placeRow number' column') :
    number = number' ∧ column = column' := by
  have hcorner : "╭─[<unknown>:".toList = '╭' :: "─[<unknown>:".toList := by decide
  rw [placeRow, placeRow, List.append_cancel_right_eq, List.append_assoc, List.append_assoc,
    hcorner] at h
  have hmargin (n : Nat) : '╭' ∉ margin n := fun hmem => by
    rw [margin] at hmem
    exact absurd (List.eq_of_mem_replicate hmem) (by decide)
  obtain ⟨-, hplace⟩ := append_separator_inj (hmargin number) (hmargin number') h
  obtain ⟨hnumber, hcolumn⟩ := append_separator_inj (not_mem_toDigits rfl _)
    (not_mem_toDigits rfl _) (List.append_cancel_left hplace)
  exact ⟨toDigits_injective hnumber, toDigits_injective hcolumn⟩

/-- The output names no place but one. -/
theorem BeginsWith.place_unique {output : String} {number number' column column' : Nat}
    {more more' : List (List Char)}
    (h : BeginsWith output (first :: placeRow number column :: more))
    (h' : BeginsWith output (first :: placeRow number' column' :: more')) :
    number = number' ∧ column = column' := by
  obtain ⟨below, rfl⟩ := h
  obtain ⟨below', heq⟩ := h'
  simp only [List.cons_append, joinRows_cons_inj] at heq
  rw [← String.toList_inj, joinRows_cons, joinRows_cons] at heq
  exact placeRow_injective (append_separator_inj (lineFeed_not_mem_placeRow _ _)
    (lineFeed_not_mem_placeRow _ _) heq).1

/-- What the output begins with begins with. -/
theorem BeginsWith.of_append {output : String} (rows : List (List Char))
    {more : List (List Char)} (h : BeginsWith output (rows ++ more)) : BeginsWith output rows := by
  obtain ⟨below, heq⟩ := h
  exact ⟨more ++ below, by rw [heq, List.append_assoc]⟩

end Rows

/-! ## The line and its mark -/

section Line

variable {line : List Char}

theorem mem_of_mem_trimEnd {c : Char} (h : c ∈ Text.trimEnd line) : c ∈ line := by
  rw [Text.trimEnd, List.mem_reverse] at h
  exact List.mem_reverse.mp ((List.dropWhile_suffix _).subset h)

/-- A line of characters of one column each is shown as it is, but for its blanks. -/
theorem flatMap_shown_eq_map (h : ∀ c ∈ line, SingleWidth c) (start : Nat) :
    ((line.zipIdx start).flatMap fun (c, column) => Text.shown c column) =
      line.map fun c => if Text.isBlank c then ' ' else c := by
  induction line generalizing start with
  | nil => rfl
  | cons c line ih =>
    obtain ⟨hc, hline⟩ := List.forall_mem_cons.mp h
    have hshown : Text.shown c start = [if Text.isBlank c then ' ' else c] := by
      rw [Text.shown, hc]
      split <;> rfl
    rw [List.zipIdx_cons, List.flatMap_cons, ih hline, List.map_cons]
    exact congrArg (· ++ _) hshown

/-- Below a line of characters of one column each, one character is drawn for each. -/
theorem drawBelow_eq_map {above : List Char} (h : ∀ c ∈ above, SingleWidth c) (length : Nat)
    (draw : Nat → Char × Char) :
    drawBelow above length draw = (List.range length).map fun column => (draw column).1 := by
  rw [drawBelow, List.map_eq_flatMap]
  refine congrArg (List.flatMap · _) (funext fun column => ?_)
  cases hc : above[column]? with
  | none => rfl
  | some c =>
    dsimp only
    rw [h c (List.mem_of_getElem? hc)]
    rfl

/-- The mark for so many characters, from a column on. -/
def markRow (column length : Nat) : List Char :=
  (List.range (column + length + 2)).map fun k =>
    (underline column (column + length) (column + length / 2) k).1

/-- **The mark is under the characters that are marked**, and nothing else is drawn in its row. -/
theorem markRow_marks {length : Nat} (hlength : 0 < length) (column k : Nat) :
    (∃ c, (markRow column length)[k]? = some c ∧ c ≠ ' ') ↔
      column ≤ k ∧ k < column + length := by
  rw [markRow, List.getElem?_map]
  by_cases hk : k < column + length + 2
  · rw [List.getElem?_range hk]
    simp only [Option.map_some, Option.some.injEq, exists_eq_left', underline]
    split
    · simp
      omega
    split
    · simp
      omega
    · simp
      omega
  · rw [List.getElem?_eq_none (by simpa using hk)]
    simp
    omega

/-- The rows between the frame and the note: the line with its mark and its label, if the mark is
within the line, and otherwise an empty one. -/
def excerptRows (position : Position) (report : Report) : List (List Char) :=
  if position.column + report.span.length ≤ position.line.length then
    let (line, below) := markedRows position report.span.length report.label
    lineRow (position.row + 1) line :: below.map (sideRow (position.row + 1))
  else [sideRow (position.row + 1) []]

/-- A line of characters of one column each is shown as it is to be, with a mark below. -/
theorem excerptRows_of_singleWidth {position : Position} {report : Report}
    (hwidth : ∀ c ∈ position.line, SingleWidth c)
    (hfits : position.column + report.span.length ≤ position.line.length) :
    ∃ more, excerptRows position report = lineRow (position.row + 1) (plain position.line) ::
      sideRow (position.row + 1) (markRow position.column report.span.length) :: more := by
  have htrim : ∀ c ∈ Text.trimEnd position.line, SingleWidth c :=
    fun c hc => hwidth c (mem_of_mem_trimEnd hc)
  rw [excerptRows, if_pos hfits, markedRows, flatMap_shown_eq_map htrim, drawBelow_eq_map htrim]
  exact ⟨_, rfl⟩

end Line

/-! ## The drawing -/

section Draw

variable {cut : List (List Char)} {report : Report} {source : String} {position : Position}
  {offset : Nat}

/-- What is found where the rows are counted from `row` on. -/
theorem locate_of_isAt (row : Nat) (h : position.IsAt cut offset) :
    locate row cut offset = { position with row := row + position.row } := by
  obtain ⟨line, _, column⟩ := position
  obtain ⟨earlier, later, rfl, rfl, hcolumn, rfl⟩ := h
  dsimp only at hcolumn ⊢
  induction earlier generalizing row with
  | nil =>
    rw [List.nil_append, List.flatten_nil, List.length_nil, Nat.zero_add]
    cases later with
    | nil => rfl
    | cons next later => exact if_pos hcolumn
  | cons first earlier ih =>
    obtain ⟨next, rest, hrest⟩ : ∃ next rest, earlier ++ line :: later = next :: rest := by
      cases earlier <;> exact ⟨_, _, rfl⟩
    rw [List.flatten_cons, List.length_append, Nat.add_assoc, List.cons_append, hrest, locate,
      if_neg (Nat.not_lt_of_le (Nat.le_add_right ..)), Nat.add_sub_cancel_left, ← hrest, ih,
      List.length_cons, Nat.add_right_comm, Nat.add_assoc]

/-- A place is found by the number of characters in front of it. -/
theorem Position.IsAt.locate_eq (h : position.IsAt cut offset) :
    locate 0 cut offset = position := by
  rw [locate_of_isAt 0 h, Nat.zero_add]

/-- **What is drawn is about the character whose number is the offset of the report.** -/
theorem beginsWith_draw (h : report.PointsInto source)
    (hat : position.IsAt (lines source.toList) report.offset) :
    BeginsWith (draw report source) (headerRow report ::
      placeRow (position.row + 1) (position.column + 1) ::
      (margin (position.row + 1) ++ ['│']) :: excerptRows position report) := by
  have hstop := h.stop_le
  have hstart := h.start_lt_stop
  rw [← String.length_toList] at hstop
  rw [draw, if_neg (by omega), h.start_eq, hat.locate_eq]
  dsimp only
  refine ⟨[margin (position.row + 1) ++ ['│', ' '],
    margin (position.row + 1) ++ ['│', ' '] ++ "Note: ".toList ++ report.note.toList,
    List.replicate ((Nat.toDigits 10 (position.row + 1)).length + 2) '─' ++ ['╯']], ?_⟩
  rw [excerptRows, sideRow, List.append_nil]
  split <;> rfl

/-- The drawing as a renderer. What it draws begins with the row that says what is wrong and the one
that names the place; behind another one stand the line, without the blanks at its end, and the
mark. -/
def drawing : Renderer where
  write report source := some (draw report source)
  lines := lines
  OneColumn := SingleWidth
  Names report text line column := BeginsWith text [headerRow report, placeRow line column]
  Marks report text number line column length :=
    ∃ place bar mark, BeginsWith text [headerRow report, place, bar, lineRow number (plain line),
        sideRow number mark] ∧
      ∀ k, (∃ c, mark[k]? = some c ∧ c ≠ ' ') ↔ column ≤ k ∧ k < column + length

/-- **The drawing takes offsets for counts of characters.** -/
theorem drawing_countsCharacters : drawing.CountsCharacters where
  flatten_lines := Text.flatten_lines
  exists_write _ := ⟨_, rfl⟩
  names_iff := by
    rintro report source text position line column h ⟨⟩ hat
    have hdraw := beginsWith_draw h hat
    constructor
    · exact fun hnames => BeginsWith.place_unique hnames hdraw
    · rintro ⟨rfl, rfl⟩
      exact BeginsWith.of_append [_, _] hdraw
  marks := by
    rintro report source text position h ⟨⟩ hat hwidth hfits
    have hdraw := beginsWith_draw h hat
    obtain ⟨more, hrows⟩ := excerptRows_of_singleWidth hwidth hfits
    rw [hrows] at hdraw
    exact ⟨_, _, _, BeginsWith.of_append [_, _, _, _, _] hdraw,
      markRow_marks (Nat.sub_pos_of_lt h.start_lt_stop) _⟩

end Draw

end Excerpt

end StackScript

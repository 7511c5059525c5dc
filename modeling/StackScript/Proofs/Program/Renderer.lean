import StackScript.Excerpt

/-!
# Renderers

An excerpt is drawn by a renderer. How it looks is left to the renderer, which is relied on for one
thing only: that it takes the offsets of a report for counts of characters
(`Renderer.CountsCharacters`). Neither what ends a line nor the layout matters for that. The
excerpt for an error then names the place of the character whose number is the offset of the error,
and no other one (`names_render_iff`), and marks as many characters from there on as the error has
bytes (`marks_render`).

The place of a character in a text that is cut into lines is told by the lines in front of it and by
the characters in front of it on its own line (`Position.IsAt`). Every character has a place
(`exists_isAt`), and different characters have different ones (`Position.IsAt.offset_unique`).

Marks that go on behind the end of a line are drawn in ways of which nothing is assumed here; the
place is named for them, too.
-/

namespace StackScript

namespace Excerpt

/-! ## Places -/

section Place

variable {cut : List (List Char)} {position other : Position} {offset i j : Nat}

/-- The place of the character in front of which so many others stand: its line comes behind so many
lines, and it comes behind so many characters of its line. -/
def Position.IsAt (position : Position) (cut : List (List Char)) (offset : Nat) : Prop :=
  ∃ earlier later, cut = earlier ++ position.line :: later ∧ position.row = earlier.length ∧
    position.column < position.line.length ∧ offset = earlier.flatten.length + position.column

/-- **Every character has a place.** -/
theorem exists_isAt (h : offset < cut.flatten.length) :
    ∃ position : Position, position.IsAt cut offset := by
  induction cut generalizing offset with
  | nil => exact absurd h (Nat.not_lt_zero _)
  | cons line more ih =>
    rcases Nat.lt_or_ge offset line.length with hlt | hge
    · exact ⟨⟨line, 0, offset⟩, [], more, rfl, rfl, hlt, (Nat.zero_add _).symm⟩
    · rw [List.flatten_cons, List.length_append] at h
      have hrest : offset - line.length < more.flatten.length := by omega
      obtain ⟨position, earlier, later, hcut, hrow, hcolumn, hoffset⟩ := ih hrest
      refine ⟨⟨position.line, position.row + 1, position.column⟩, line :: earlier, later, ?_, ?_,
        hcolumn, ?_⟩
      · rw [hcut, List.cons_append]
      · rw [hrow, List.length_cons]
      · rw [List.flatten_cons, List.length_append]
        dsimp only
        omega

/-- **Different characters have different places.** -/
theorem Position.IsAt.offset_unique (h : position.IsAt cut i) (h' : other.IsAt cut j)
    (hrow : position.row = other.row) (hcolumn : position.column = other.column) : i = j := by
  obtain ⟨earlier, later, rfl, hlength, -, rfl⟩ := h
  obtain ⟨earlier', later', hcut, hlength', -, rfl⟩ := h'
  -- as many lines come before both places, so the same lines do
  obtain ⟨rfl, -⟩ := List.append_inj hcut (by rw [← hlength, ← hlength', hrow])
  rw [hcolumn]

end Place

end Excerpt

open Excerpt (Position renderWith)

/-! ## What is relied on -/

/-- The report is about characters of the text, if its offsets are taken for counts of characters:
it names the place of the first one that it marks, and all that it marks is there. -/
structure Report.PointsInto (report : Report) (source : String) : Prop where
  /-- the place is that of the mark -/
  start_eq : report.span.start = report.offset
  /-- something is marked -/
  start_lt_stop : report.span.start < report.span.stop
  /-- the mark ends within the text -/
  stop_le : report.span.stop ≤ source.length

/-- Something that writes reports, and how what it writes is read. -/
structure Renderer where
  /-- the text that is written for a report on another text, unless that fails -/
  write : Report → String → Option String
  /-- the lines that a text is shown in -/
  lines : List Char → List (List Char)
  /-- the characters that are shown in one column, wherever they stand -/
  OneColumn : Char → Prop
  /-- the text that is written for a report names the place in this line and this column, which are
  counted from one -/
  Names (report : Report) (text : String) (line column : Nat) : Prop
  /-- the text that is written for a report shows the line with this number, with a mark under
  `length` of its characters, in front of which `column` others stand -/
  Marks (report : Report) (text : String) (number : Nat) (line : List Char) (column length : Nat) :
    Prop

namespace Renderer

variable {R : Renderer}

/-- The renderer takes the offsets of reports for counts of characters, as renderers do if they are
not told otherwise. -/
structure CountsCharacters (R : Renderer) : Prop where
  /-- the lines of a text are all of it -/
  flatten_lines (text : List Char) : (R.lines text).flatten = text
  /-- writing a report on characters of the text does not fail -/
  exists_write {report : Report} {source : String} (h : report.PointsInto source) :
    ∃ text, R.write report source = some text
  /-- the place that is named is that of the character whose number is the offset -/
  names_iff {report : Report} {source text : String} {position : Position} {line column : Nat}
    (h : report.PointsInto source) (hwrite : R.write report source = some text)
    (hat : position.IsAt (R.lines source.toList) report.offset) :
    R.Names report text line column ↔ line = position.row + 1 ∧ column = position.column + 1
  /-- if a line of characters of one column each holds all characters whose numbers are in the span,
  that line is shown, and they are marked -/
  marks {report : Report} {source text : String} {position : Position}
    (h : report.PointsInto source) (hwrite : R.write report source = some text)
    (hat : position.IsAt (R.lines source.toList) report.offset)
    (hwidth : ∀ c ∈ position.line, R.OneColumn c)
    (hfits : position.column + report.span.length ≤ position.line.length) :
    R.Marks report text (position.row + 1) position.line position.column report.span.length

/-- What is shown for an error in the program `source`, which is known by a name. -/
def render (R : Renderer) (name source : String) (e : ParseError) : String :=
  renderWith R.write name source e

/-- What is shown for the error names the place, and shows its line with a mark under `length`
characters from there on, if the line takes one column for each of its characters and has as many of
them. -/
def Shows (R : Renderer) (name source : String) (e : ParseError) (position : Position)
    (length : Nat) : Prop :=
  R.Names (e.report name) (R.render name source e) (position.row + 1) (position.column + 1) ∧
    ((∀ c ∈ position.line, R.OneColumn c) → position.column + length ≤ position.line.length →
      R.Marks (e.report name) (R.render name source e) (position.row + 1) position.line
        position.column length)

namespace CountsCharacters

variable {name source : String} {e : ParseError} {position : Position} {line column : Nat}

/-- What is shown for an error is what is written for the report of it. -/
theorem write_eq_render (hR : R.CountsCharacters) (h : (e.report name).PointsInto source) :
    R.write (e.report name) source = some (R.render name source e) := by
  obtain ⟨text, hwrite⟩ := hR.exists_write h
  rw [render, renderWith, hwrite, Option.getD_some]

/-- **The place of the character whose number is the offset of the error is named**, and no other
one. -/
theorem names_render_iff (hR : R.CountsCharacters) (h : (e.report name).PointsInto source)
    (hat : position.IsAt (R.lines source.toList) e.span.start) :
    R.Names (e.report name) (R.render name source e) line column ↔
      line = position.row + 1 ∧ column = position.column + 1 :=
  hR.names_iff h (hR.write_eq_render h) hat

/-- That place is shown with a mark under as many characters as the error has bytes. -/
theorem shows (hR : R.CountsCharacters) (h : (e.report name).PointsInto source)
    (hat : position.IsAt (R.lines source.toList) e.span.start) :
    R.Shows name source e position e.span.length :=
  ⟨(hR.names_render_iff h hat).mpr ⟨rfl, rfl⟩, hR.marks h (hR.write_eq_render h) hat⟩

end CountsCharacters

end Renderer

end StackScript

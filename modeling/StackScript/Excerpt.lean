import StackScript.ParseError
import StackScript.Text.Width

/-!
# Excerpts for parse errors

A parse error is shown with the line of the program it concerns, a mark under the place, and a label
that says what is wrong there:

    Error: unmatched `]`
       ╭─[<unknown>:1:3]
       │
     1 │ 1 ]
       │   ┬  
       │   ╰── this `]` closes nothing
       │ 
       │ Note: in prog.ps
    ───╯

The program only says what is to be shown (`ParseError.report`) and leaves it to a renderer to draw
it (`Excerpt.renderWith`). The offsets that it hands over are those of the error, which count bytes;
renderers take offsets for counts of characters, unless they are told otherwise. For a program in
ASCII that is the same. Otherwise the mark stands further to the right than the error, possibly on
a later line.

One such renderer is `Excerpt.draw`. It draws excerpts in which the mark is within one line. Where a
renderer would draw a mark across several lines, as for an array literal that is begun on one line
and never closed, `draw` names the place and leaves the excerpt empty; and if the mark would stand
behind the end of the program, it shows nothing but the first line.
-/

namespace StackScript

/-- What a renderer is asked to show, in black and white and under the heading `Error`. -/
structure Report where
  /-- where the place is that is named -/
  offset : Nat
  /-- what is wrong -/
  message : String
  /-- what is marked -/
  span : Span
  /-- what is written beside the mark -/
  label : String
  /-- a remark below -/
  note : String
  deriving DecidableEq, Repr

/-- What is to be shown of an error in a program that is known by a name. -/
def ParseError.report (name : String) (e : ParseError) : Report :=
  ⟨e.span.start, e.message, e.span, e.label, "in " ++ name⟩

namespace Text

/-- Whether a character ends a line, where a return directly before a line feed does not: the two
together end one line. -/
def endsLine (c : Char) (next : Option Char) : Bool :=
  if c = '\r' then next != some '\n'
  else c == '\n' || c == '\x0b' || c == '\x0c' || c == '\u0085' || c == '\u2028' || c == '\u2029'

/-- The lines of a text, each with what ends it. A text that ends with the end of a line has no
empty line after that. -/
def lines : List Char → List (List Char)
  | [] => []
  | c :: rest =>
    match lines rest with
    | [] => [[c]]
    | line :: more =>
      if endsLine c rest.head? then [c] :: line :: more else (c :: line) :: more

/-- No character is lost when a text is cut into lines. -/
theorem flatten_lines (text : List Char) : (lines text).flatten = text := by
  induction text with
  | nil => rfl
  | cons c rest ih =>
    unfold lines
    cases hlines : lines rest with
    | nil =>
      have hrest : rest = [] := by simpa [hlines] using ih.symm
      simp [hrest]
    | cons line more =>
      have hrest : line ++ more.flatten = rest := by simpa [hlines] using ih
      cases endsLine c rest.head? <;> simp [hrest]

end Text

namespace Excerpt

/-- A place in a program that is cut into lines. -/
structure Position where
  /-- the line, with what ends it -/
  line : List Char
  /-- how many lines come before it -/
  row : Nat
  /-- how many characters of the line come before the place -/
  column : Nat

/-- The place before which so many characters stand, counting from the start of the given lines, the
first of which is line `row`. The end of the text belongs to its last line. -/
def locate (row : Nat) : List (List Char) → Nat → Position
  | [], column => ⟨[], row, column⟩
  | [line], column => ⟨line, row, column⟩
  | line :: next :: rest, column =>
    if column < line.length then ⟨line, row, column⟩
    else locate (row + 1) (next :: rest) (column - line.length)

/-- Draws below a line: for each of `length` columns of characters the given character, as wide as
the character above it. -/
def drawBelow (above : List Char) (length : Nat) (draw : Nat → Char × Char) : List Char :=
  (List.range length).flatMap fun column =>
    let width := match above[column]? with
      | some c => Text.columns c column
      | none => 1
    let (first, more) := draw column
    (List.replicate width more).set 0 first

/-- The mark under the columns from `start` to `stop`; in its middle the label is attached. -/
def underline (start stop middle column : Nat) : Char × Char :=
  if column = middle then ('┬', '─')
  else if start ≤ column ∧ column < stop then ('─', '─')
  else (' ', ' ')

/-- The arm that leads from the middle of the mark to the label. -/
def arm (middle column : Nat) : Char × Char :=
  if column = middle then ('╰', '─')
  else if middle < column then ('─', '─')
  else (' ', ' ')

/-- The three rows with the line, the mark and the label, without what stands in front of them. The
first element is for the row that carries the line number. -/
def markedRows (position : Position) (length : Nat) (label : String) :
    List Char × List (List Char) :=
  let line := Text.trimEnd position.line
  let start := position.column
  let stop := start + length
  let middle := start + length / 2
  let source := line.zipIdx.flatMap fun (c, column) => Text.shown c column
  let mark := drawBelow line (stop + 2) (underline start stop middle)
  let arms := drawBelow line (stop + 2) (arm middle)
  (source, [mark, arms ++ ' ' :: label.toList])

/-- Several rows as one text, each ended by a line feed. -/
def joinRows (rows : List (List Char)) : String :=
  String.ofList (rows.flatMap fun row => row ++ ['\n'])

/-- The drawing of a report on the text `source`, with offsets taken for counts of characters. What
goes on behind the end of the line on which it starts is not marked. -/
def draw (report : Report) (source : String) : String :=
  let text := source.toList
  let header := "Error: ".toList ++ report.message.toList
  if text.length < report.span.start ∨ text.length < report.span.stop - 1 then joinRows [header]
  else
    let named := locate 0 (Text.lines text) report.offset
    let marked := locate 0 (Text.lines text) report.span.start
    let number := Nat.toDigits 10 (marked.row + 1)
    let margin := List.replicate (number.length + 2) ' '
    let place := Nat.toDigits 10 (named.row + 1) ++ ':' :: Nat.toDigits 10 (named.column + 1)
    let bar := margin ++ ['│', ' ']
    let excerpt :=
      if marked.column + report.span.length ≤ marked.line.length then
        let (line, below) := markedRows marked report.span.length report.label
        (' ' :: number ++ " │ ".toList ++ line) :: below.map fun row => bar ++ row
      else [bar]
    joinRows ([header, margin ++ "╭─[<unknown>:".toList ++ place ++ [']'], margin ++ ['│']] ++
      excerpt ++
      [bar, bar ++ "Note: ".toList ++ report.note.toList,
        List.replicate (number.length + 2) '─' ++ ['╯']])

/-- What is shown for an error in the program `source`, which is known by a name, if reports are
written by `write`: what that writes, and no more than the message if it fails. -/
def renderWith (write : Report → String → Option String) (name source : String) (e : ParseError) :
    String :=
  (write (e.report name) source).getD ("error: " ++ e.message ++ "\n")

/-- What the command line shows for an error in the program `source`, which is known by a name. -/
def render (name source : String) (e : ParseError) : String :=
  renderWith (fun report text => some (draw report text)) name source e

end Excerpt

end StackScript

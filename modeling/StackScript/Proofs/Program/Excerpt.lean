import StackScript.Proofs.Program.Drawing
import StackScript.Proofs.Program.Place

/-!
# The places that excerpts show

An excerpt names the place of the character whose number is the offset of the error, and the offset
is a number of bytes. So it shows the place of the error exactly if every character in front of it
is one of ASCII (`excerpt_shows_place_iff`); a program with an accent in a comment on its first line
is shown at a wrong place from there on. That is so for every renderer that takes offsets for counts
of characters, the one of the command line among them (`drawing_countsCharacters`).
-/

namespace StackScript

open Excerpt (Position drawing drawing_countsCharacters exists_isAt locate)

/-! ## Places of errors -/

section Error

variable {source before text after : String} {e : ParseError}

/-- As many bytes as characters come before the error exactly if they are of ASCII. -/
theorem ParseError.StandsIn.start_eq_length_iff (h : e.StandsIn source before text after) :
    e.span.start = before.length ↔ ∀ c ∈ before.toList, c.toNat < 128 := by
  rw [h.span_eq, ← Text.byteLength_toList, ← String.length_toList]
  exact Text.byteLength_eq_length_iff

/-- An error in a text of ASCII has as many bytes as that has characters. -/
theorem ParseError.StandsIn.length_eq (h : e.StandsIn source before text after)
    (hascii : ∀ c ∈ text.toList, c.toNat < 128) : e.span.length = text.length := by
  have hbytes := Text.byteLength_eq_length_iff.mpr hascii
  rw [Text.byteLength_toList, String.length_toList] at hbytes
  rw [Span.length, h.span_eq, String.utf8ByteSize_append, ← hbytes]
  exact Nat.add_sub_cancel_left ..

/-- Something comes behind what comes before an error. -/
theorem ParseError.StandsIn.length_before_lt (h : e.StandsIn source before text after) :
    before.length < source.length := by
  have hne : text ≠ "" := by
    rintro rfl
    have hlt := h.start_lt_stop
    rw [h.span_eq, String.append_empty] at hlt
    exact Nat.lt_irrefl _ hlt
  have hpos : 0 < text.length := Nat.pos_of_ne_zero (mt String.length_eq_zero_iff.mp hne)
  rw [h.source_eq, String.length_append, String.length_append]
  omega

/-- What is reported of an error is about characters of the program if the span, taken for numbers
of characters, ends within it. -/
theorem ParseError.StandsIn.pointsInto (h : e.StandsIn source before text after) (name : String)
    (hstop : e.span.stop ≤ source.length) : (e.report name).PointsInto source :=
  ⟨rfl, h.start_lt_stop, hstop⟩

end Error

namespace Renderer

/-- **Excerpts show the right place behind ASCII only.** Every parse error is noticed at a text that
stands in the program between two others, and has a place: that of the first character of the text,
in the lines that the renderer makes of the program. If the renderer takes offsets for counts of
characters, the following is true of what it shows:

* as long as the span, taken for numbers of characters, ends within the program, the place that is
  named and shown is that of the character whose number is the offset of the error in bytes, and
  that is the place of the error exactly if all characters before it are those of ASCII;
* if the text is one of ASCII, too, the place of the error is named, and its line is shown with a
  mark under the characters of the text, if it ends on that line and all characters of the line take
  one column. -/
theorem excerpt_shows_place_iff {R : Renderer} (hR : R.CountsCharacters) {source : String}
    {e : ParseError} (name : String) (h : Program.parse source = .error e) :
    ∃ before text after : String, ∃ position : Position,
      e.StandsIn source before text after ∧
      position.IsAt (R.lines source.toList) before.length ∧
      (e.span.stop ≤ source.length →
        (∃ shown : Position, shown.IsAt (R.lines source.toList) e.span.start ∧
          R.Shows name source e shown e.span.length) ∧
        (R.Names (e.report name) (R.render name source e) (position.row + 1)
            (position.column + 1) ↔
          ∀ c ∈ before.toList, c.toNat < 128)) ∧
      ((∀ c ∈ (before ++ text).toList, c.toNat < 128) →
        R.Shows name source e position text.length) := by
  obtain ⟨before, text, after, hstands⟩ := Program.error_stands_in_source h
  have hplace {offset : Nat} (hlt : offset < source.length) :
      ∃ position : Position, position.IsAt (R.lines source.toList) offset := by
    refine exists_isAt ?_
    rwa [hR.flatten_lines, String.length_toList]
  obtain ⟨position, hat⟩ := hplace hstands.length_before_lt
  refine ⟨before, text, after, position, hstands, hat, fun hstop => ?_, fun hascii => ?_⟩
  · have hpoints := hstands.pointsInto name hstop
    obtain ⟨shown, hshown⟩ := hplace (Nat.lt_of_lt_of_le hstands.start_lt_stop hstop)
    rw [← hstands.start_eq_length_iff]
    refine ⟨⟨shown, hshown, hR.shows hpoints hshown⟩, fun hnames => ?_, fun hstart => ?_⟩
    · obtain ⟨hrow, hcolumn⟩ := (hR.names_render_iff hpoints hshown).mp hnames
      exact hshown.offset_unique hat (Nat.succ.inj hrow).symm (Nat.succ.inj hcolumn).symm
    · exact (hR.shows hpoints (hstart ▸ hat)).1
  · rw [String.toList_append, List.forall_mem_append] at hascii
    have hstart := hstands.start_eq_length_iff.mpr hascii.1
    have hlength := hstands.length_eq hascii.2
    have hstop : e.span.stop ≤ source.length := by
      have hlt := hstands.start_lt_stop
      rw [hstands.source_eq, String.length_append, String.length_append, ← hstart, ← hlength,
        Span.length]
      omega
    rw [← hlength]
    exact hR.shows (hstands.pointsInto name hstop) (hstart ▸ hat)

/-- An error on the second line of a program in ASCII, as the command line draws it. -/
theorem excerpt_shows_place_iff_of_second_line :
    let source := "1\n 2 ] 3"
    let e : ParseError := ⟨.strayBracket, ⟨5, 6⟩⟩
    drawing.CountsCharacters ∧ Program.parse source = .error e ∧
      ∃ before text after : String, e.StandsIn source before text after ∧
        drawing.Names (e.report "prog") (drawing.render "prog" source e) 2 4 ∧
        drawing.Marks (e.report "prog") (drawing.render "prog" source e) 2 " 2 ] 3".toList 3 1 := by
  intro source e
  have hscan : Token.scan source = .ok [⟨.integer, "1", ⟨0, 1⟩⟩, ⟨.integer, "2", ⟨3, 4⟩⟩,
      ⟨.closeBracket, "]", ⟨5, 6⟩⟩, ⟨.integer, "3", ⟨7, 8⟩⟩] := by decide +kernel
  have hparse : Program.parse source = .error e := by
    rw [Program.parse, hscan]
    rfl
  have hascii : ∀ c ∈ source.toList, c.toNat < 128 :=
    Text.byteLength_eq_length_iff.mp (by decide +kernel)
  have hwidth : " 2 ] 3".toList.all fun c => Text.columns c 0 = 1 := by decide +kernel
  obtain ⟨before, text, after, position, hstands, hat, -, hshows⟩ :=
    excerpt_shows_place_iff drawing_countsCharacters "prog" hparse
  refine ⟨drawing_countsCharacters, hparse, before, text, after, hstands, ?_⟩
  obtain rfl : text = "]" := by
    cases hstands.describes
    assumption
  rw [hstands.source_eq, String.toList_append, List.forall_mem_append] at hascii
  have hbefore : 5 = before.length := by
    rw [String.toList_append, List.forall_mem_append] at hascii
    exact hstands.start_eq_length_iff.mpr hascii.1.1
  have hlines : Text.lines source.toList = ["1\n".toList, " 2 ] 3".toList] := by decide +kernel
  obtain rfl : position = ⟨" 2 ] 3".toList, 1, 3⟩ := by
    rw [← hat.locate_eq, ← hbefore]
    exact congrArg (locate 0 · 5) hlines
  obtain ⟨hnames, hmarks⟩ := hshows hascii.1
  refine ⟨hnames, hmarks (fun c hc => ?_) (by decide)⟩
  exact Text.singleWidth_iff.mpr (of_decide_eq_true (List.all_eq_true.mp hwidth c hc))

/-- An accent in front of an error shifts the place that is named by one column. -/
theorem not_names_of_accent :
    let source := "é ] 1"
    let e : ParseError := ⟨.strayBracket, ⟨3, 4⟩⟩
    Program.parse source = .error e ∧ e.StandsIn source "é " "]" " 1" ∧
      (drawing.CountsCharacters ∧ drawing.lines source.toList = [source.toList]) ∧
      ∀ R : Renderer, R.CountsCharacters → R.lines source.toList = [source.toList] →
        Position.IsAt ⟨source.toList, 0, 2⟩ (R.lines source.toList) "é ".length ∧
        ¬ R.Names (e.report "prog") (R.render "prog" source e) 1 3 ∧
        R.Names (e.report "prog") (R.render "prog" source e) 1 4 := by
  intro source e
  have hscan : Token.scan source = .ok [⟨.symbol, "é", ⟨0, 2⟩⟩, ⟨.closeBracket, "]", ⟨3, 4⟩⟩,
      ⟨.integer, "1", ⟨5, 6⟩⟩] := by decide +kernel
  have hparse : Program.parse source = .error e := by
    rw [Program.parse, hscan]
    rfl
  have hstands : e.StandsIn source "é " "]" " 1" := ⟨rfl, rfl, by decide, .strayBracket rfl⟩
  refine ⟨hparse, hstands, ⟨drawing_countsCharacters, by decide +kernel⟩, fun R hR hlines => ?_⟩
  rw [hlines]
  have hshown : Position.IsAt ⟨source.toList, 0, 3⟩ (R.lines source.toList) e.span.start :=
    ⟨[], [], hlines, rfl, by decide, rfl⟩
  have hnames (line column : Nat) :
      R.Names (e.report "prog") (R.render "prog" source e) line column ↔ line = 1 ∧ column = 4 :=
    hR.names_render_iff (hstands.pointsInto "prog" (by decide)) hshown
  refine ⟨⟨[], [], rfl, rfl, by decide, rfl⟩, ?_, (hnames 1 4).mpr ⟨rfl, rfl⟩⟩
  rw [hnames]
  decide

end Renderer

end StackScript

import Mathlib
import StackScript.Span
import StackScript.Text.Blank
import StackScript.Text.Bytes

/-!
# Characters and runs of characters

Kinds of characters that exclude each other, and runs of characters of one kind at the front of a
text. A run ends where a character of another kind follows, or the text does; both are said of the
first character of what follows, if there is one.

The blanks at the ends of a text are such runs, one of them read backwards (`exists_append_trim`).
-/

namespace StackScript.Text

/-! ## Kinds of characters -/

/-- Letters and digits are not blanks. -/
theorem isBlank_of_isAlphanum {c : Char} (h : c.isAlphanum = true) : isBlank c = false := by
  simp only [Char.isAlphanum, Char.isAlpha, Char.isUpper, Char.isLower, Char.isDigit,
    Bool.or_eq_true, Bool.and_eq_true, decide_eq_true_eq, UInt32.le_iff_toNat_le, ge_iff_le] at h
  have hn : c.toNat = c.val.toNat := rfl
  simp only [isBlank, hn]
  simp at h ⊢
  omega

/-- A letter is not a digit. -/
theorem isDigit_of_isAlpha {c : Char} (h : c.isAlpha = true) : c.isDigit = false := by
  simp only [Char.isAlpha, Char.isUpper, Char.isLower, Char.isDigit, Bool.or_eq_true,
    Bool.and_eq_true, decide_eq_true_eq, UInt32.le_iff_toNat_le, ge_iff_le] at h ⊢
  simp at h ⊢
  omega

/-- A digit is a letter or a digit. -/
theorem isAlphanum_of_isDigit {c : Char} (h : c.isDigit = true) : c.isAlphanum = true := by
  rw [Char.isAlphanum, h, Bool.or_true]

/-- A letter is a letter or a digit. -/
theorem isAlphanum_of_isAlpha {c : Char} (h : c.isAlpha = true) : c.isAlphanum = true := by
  rw [Char.isAlphanum, h, Bool.true_or]

/-- Digits are not blanks. -/
theorem isBlank_of_isDigit {c : Char} (h : c.isDigit = true) : isBlank c = false :=
  isBlank_of_isAlphanum (isAlphanum_of_isDigit h)

/-- A character of a kind is none that is not of the kind. -/
theorem ne_of_kind {p : Char → Bool} {c d : Char} (hc : p c = true) (hd : p d = false) : c ≠ d := by
  rintro rfl
  rw [hc] at hd
  cases hd

/-! ## Runs -/

section Run

variable {p : Char → Bool} {run rest : List Char}

/-- Where something else follows nothing is taken. -/
theorem takeWhile_eq_nil (hrest : ∀ c, rest.head? = some c → p c = false) :
    rest.takeWhile p = [] := by
  cases rest with
  | nil => rfl
  | cons c rest => rw [List.takeWhile_cons, hrest c rfl, if_neg Bool.false_ne_true]

/-- A run is taken up to where it ends. -/
theorem takeWhile_append (hrun : ∀ c ∈ run, p c = true)
    (hrest : ∀ c, rest.head? = some c → p c = false) : (run ++ rest).takeWhile p = run := by
  rw [List.takeWhile_append_of_pos hrun, takeWhile_eq_nil hrest, List.append_nil]

/-- A run goes on at least as far as it is known to. -/
theorem length_le_takeWhile (hrun : ∀ c ∈ run, p c = true) (rest : List Char) :
    run.length ≤ ((run ++ rest).takeWhile p).length := by
  rw [List.takeWhile_append_of_pos hrun, List.length_append]
  exact Nat.le_add_right ..

/-- The characters taken are the first ones. -/
theorem take_length_takeWhile (p : Char → Bool) (text : List Char) :
    text.take (text.takeWhile p).length = text.takeWhile p :=
  (List.prefix_iff_eq_take.mp (List.takeWhile_prefix p)).symm

/-- The characters taken and those left are all of them. -/
theorem takeWhile_append_drop (p : Char → Bool) (text : List Char) :
    text.takeWhile p ++ text.drop (text.takeWhile p).length = text :=
  List.prefix_iff_eq_append.mp (List.takeWhile_prefix p)

/-- What is left starts with a character of another kind. -/
theorem head?_drop_takeWhile (p : Char → Bool) (text : List Char) :
    ∀ c, (text.drop (text.takeWhile p).length).head? = some c → p c = false := by
  induction text with
  | nil => simp
  | cons d text ih =>
    rcases hd : p d with _ | _
    · rw [List.takeWhile_cons, hd]
      rintro c ⟨⟩
      exact hd
    · rwa [List.takeWhile_cons, hd]

end Run

/-- A text is what is left of it without the blanks at its ends, and those blanks. -/
theorem exists_append_trim (text : List Char) :
    ∃ before after, text = before ++ (trim text ++ after) ∧
      (∀ c ∈ before, isBlank c = true) ∧ ∀ c ∈ after, isBlank c = true := by
  refine ⟨text.takeWhile isBlank, ((text.dropWhile isBlank).reverse.takeWhile isBlank).reverse,
    ?_, ?_, ?_⟩
  · rw [trim, ← List.reverse_append, List.takeWhile_append_dropWhile, List.reverse_reverse,
      List.takeWhile_append_dropWhile]
  · intro c hc
    exact List.mem_takeWhile_imp hc
  · intro c hc
    exact List.mem_takeWhile_imp (List.mem_reverse.mp hc)

/-! ## Bytes -/

/-- The bytes of a text are those of its characters. -/
theorem byteLength_toList (text : String) : byteLength text.toList = text.utf8ByteSize := by
  have hlength (chars : List Char) : byteLength chars = String.utf8Len chars := by
    induction chars with
    | nil => rfl
    | cons c chars ih => rw [byteLength_cons, ih, String.utf8Len_cons, Nat.add_comm]
  rw [hlength, ← String.utf8ByteSize_ofList, String.ofList_toList]

/-- The characters of one byte are those of ASCII. -/
theorem utf8Size_eq_one_iff {c : Char} : c.utf8Size = 1 ↔ c.toNat < 128 := by
  have hval : c.val ≤ 127 ↔ c.toNat < 128 := UInt32.le_iff_toNat_le.trans Nat.lt_succ_iff.symm
  rw [← hval]
  unfold Char.utf8Size
  grind

/-- A text has as many bytes as characters exactly if all of them are characters of ASCII. -/
theorem byteLength_eq_length_iff {text : List Char} :
    byteLength text = text.length ↔ ∀ c ∈ text, c.toNat < 128 := by
  induction text with
  | nil => simp
  | cons c rest ih =>
    have hrest := length_le_byteLength rest
    rw [byteLength_cons, List.length_cons, List.forall_mem_cons, ← ih, ← utf8Size_eq_one_iff]
    have hpos := c.utf8Size_pos
    omega

section Pieces

variable {text : String} {before piece after : List Char}

/-- The pieces of a text, put together, are the text. -/
theorem eq_append_of_toList (h : text.toList = before ++ (piece ++ after)) :
    text = String.ofList before ++ String.ofList piece ++ String.ofList after := by
  rw [← String.ofList_append, ← String.ofList_append, List.append_assoc, ← h, String.ofList_toList]

/-- The place of a piece, in the bytes of the text. -/
theorem span_eq_of_pieces (before piece : List Char) :
    (⟨byteLength before, byteLength before + byteLength piece⟩ : Span) =
      ⟨(String.ofList before).utf8ByteSize,
        (String.ofList before ++ String.ofList piece).utf8ByteSize⟩ := by
  rw [← String.ofList_append, ← byteLength_toList, ← byteLength_toList, String.toList_ofList,
    String.toList_ofList, byteLength_append]

/-- A piece that is not empty takes at least one byte. -/
theorem byteLength_pos (h : piece ≠ []) : 0 < byteLength piece :=
  Nat.lt_of_lt_of_le (List.length_pos_iff.mpr h) (length_le_byteLength piece)

end Pieces

end StackScript.Text

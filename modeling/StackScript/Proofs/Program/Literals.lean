import StackScript.Proofs.Number.Overflow
import StackScript.Proofs.Program.Place
import StackScript.Proofs.Program.RoundTrip

/-!
# Number literals and what they are read as

Every number of a program comes from a literal that stands in the source, in program text or in an
array, at whatever depth (`covers_of_mem_numbers`). What becomes of literals that are too large
differs between the two kinds: an integer is refused if it does not fit in 64 bits, and a real never
is (`literals_rounded_or_refused`). A real literal is rounded, and from `Double.overflowBound` on
the double is infinite. It is then not written as a literal any more, so a program with such a
number in it is not what its own text is read as.
-/

namespace StackScript

/-! ## One literal -/

namespace Number

/-- The text is a real literal, and what it stands for is at least as near to infinity as to the
largest double. -/
def IsBeyondDoubles (text : List Char) : Prop :=
  ∃ d, Decimal.ofChars? (splitSign text).2 = some d ∧
    Double.overflowBound * 10 ^ d.places ≤ d.significand

/-- A numeral is read from digits around a point, so it is no integer. -/
theorem isDigits_of_ofChars? {text : List Char} {d : Decimal}
    (h : Decimal.ofChars? text = some d) : isDigits text = false := by
  rw [Bool.eq_false_iff]
  intro hdigits
  have hsplit : ∀ text : List Char, (∀ c ∈ text, c.isDigit = true) →
      Decimal.splitPoint? text = none := by
    intro text htext
    induction text with
    | nil => rfl
    | cons c text ih =>
      have hpoint : c ≠ '.' := Text.ne_of_kind (htext c List.mem_cons_self) rfl
      rw [Decimal.splitPoint?, if_neg hpoint, ih fun c hc => htext c (List.mem_cons_of_mem _ hc)]
      rfl
  rw [Decimal.ofChars?, hsplit text (isDigits_iff.mp hdigits).2] at h
  cases h

/-- A numeral with an optional minus sign is read as a double. -/
theorem read_of_ofChars? {text : List Char} {d : Decimal}
    (h : Decimal.ofChars? (splitSign text).2 = some d) :
    read text = .value (.real (if (splitSign text).1 then -d.toFloat else d.toFloat)) := by
  have hdigits := isDigits_of_ofChars? h
  rw [read]
  generalize splitSign text = split at h hdigits ⊢
  obtain ⟨negative, unsigned⟩ := split
  dsimp only at h hdigits ⊢
  rw [hdigits, if_neg Bool.false_ne_true, h]

theorem isInf_neg (x : Float) : (-x).isInf = x.isInf := by
  change (-x).toModel.unpack.isInf = x.toModel.unpack.isInf
  rw [Double.unpack_neg]
  cases x.toModel.unpack <;> rfl

/-- A literal is read as something infinite exactly if it is beyond the doubles. -/
theorem isInfinite_iff_of_read {text : List Char} {n : Number} (h : read text = .value n) :
    n.isInfinite = true ↔ IsBeyondDoubles text := by
  rcases hnumeral : Decimal.ofChars? (splitSign text).2 with _ | d
  · -- without a numeral it is an integer
    have hint : n.isInfinite = false := by
      rw [read] at h
      generalize splitSign text = split at h hnumeral
      obtain ⟨negative, unsigned⟩ := split
      dsimp only at h hnumeral
      rw [hnumeral] at h
      split at h
      · split at h <;> cases h
        rfl
      · cases h
    rw [hint]
    refine iff_of_false Bool.false_ne_true ?_
    rintro ⟨d, hd, -⟩
    rw [hnumeral] at hd
    cases hd
  · rw [read_of_ofChars? hnumeral] at h
    cases h
    have hinf : (real (if (splitSign text).1 then -d.toFloat else d.toFloat)).isInfinite =
        d.toFloat.isInf := by
      cases (splitSign text).1 with
      | false => rfl
      | true => exact isInf_neg d.toFloat
    rw [hinf, Decimal.isInf_toFloat_iff]
    refine ⟨fun hle => ⟨d, hnumeral, hle⟩, ?_⟩
    rintro ⟨d', hd', hle⟩
    rw [hnumeral] at hd'
    cases hd'
    exact hle

/-- Whatever its size, a real literal is read as a double. -/
theorem read_of_word_real {text : List Char} (h : Token.Word .real text) :
    ∃ x, read text = .value (.real x) := by
  suffices hnumeral : ∃ d, Decimal.ofChars? (splitSign text).2 = some d by
    obtain ⟨d, hd⟩ := hnumeral
    exact ⟨_, read_of_ofChars? hd⟩
  cases h with
  | @real first digits fraction hstart hfraction =>
    obtain ⟨hdigits, hfirst | ⟨rfl, -⟩⟩ := hstart
    · have hwhole : ∀ c ∈ first :: digits, c.isDigit = true := List.forall_mem_cons.mpr
        ⟨hfirst, hdigits⟩
      have hhead : (first :: digits ++ '.' :: fraction).head? ≠ some '-' :=
        head?_ne_of_isDigits (isDigits_iff.mpr ⟨List.cons_ne_nil _ _, hwhole⟩)
      have hsign : splitSign (first :: digits ++ '.' :: fraction) =
          (false, first :: digits ++ '.' :: fraction) := @splitSign_signed false _ hhead
      rw [← List.cons_append, hsign]
      exact ⟨_, Decimal.ofChars?_append hwhole hfraction⟩
    · exact ⟨_, Decimal.ofChars?_append hdigits hfraction⟩

/-- What is too large when it is read is an integer that does not fit in 64 bits. -/
theorem overflow_of_read {text : List Char} (h : read text = .overflow) :
    isDigits (splitSign text).2 = true ∧
      int64? (if (splitSign text).1 then -(Nat.ofDigitChars 10 (splitSign text).2 0 : Int)
        else Nat.ofDigitChars 10 (splitSign text).2 0) = none := by
  rw [read] at h
  generalize splitSign text = split at h ⊢
  obtain ⟨negative, unsigned⟩ := split
  dsimp only at h ⊢
  split at h
  · next hdigits =>
    split at h
    · cases h
    · next hnone => exact ⟨hdigits, hnone⟩
  · split at h <;> cases h

/-- What is written of an infinite double is no literal. -/
theorem read_chars_of_isInfinite {n : Number} (h : n.isInfinite = true) :
    read n.chars = .other := by
  cases n with
  | int n => cases h
  | real x =>
    rw [chars, realChars_of_isInf h]
    cases isNegative x <;> rfl

end Number

/-! ## The literals of a program -/

namespace NumberTree

mutual

/-- The numbers of a tree are among its pieces. -/
theorem number_mem_pieces : (tree : NumberTree) → ∀ n ∈ tree.numbers, .number n ∈ tree.pieces
  | .leaf m, n, hn => by
    rw [numbers, List.mem_singleton] at hn
    rw [hn, pieces]
    exact List.mem_singleton.mpr rfl
  | .node items, n, hn => by
    rw [numbers] at hn
    rw [pieces]
    exact List.mem_append_left _ (List.mem_cons_of_mem _ (number_mem_piecesAll items n hn))

/-- The numbers of several trees are among their pieces. -/
theorem number_mem_piecesAll :
    (items : List NumberTree) → ∀ n ∈ numbersAll items, .number n ∈ piecesAll items
  | [], n, hn => by cases hn
  | tree :: rest, n, hn => by
    rw [numbersAll, List.mem_append] at hn
    rw [piecesAll, List.mem_append]
    exact hn.imp (number_mem_pieces tree n) (number_mem_piecesAll rest n)

end

end NumberTree

namespace Term

mutual

/-- The numbers of a term are those of its pieces. -/
theorem exists_piece_of_mem_numbers :
    (term : Term) → ∀ n ∈ term.numbers, ∃ piece, .term piece ∈ term.pieces ∧ n ∈ piece.numbers
  | .proc body, n, hn => by
    obtain ⟨piece, hpiece, hn⟩ := exists_piece_of_mem_numbersAll body n hn
    exact ⟨piece, List.mem_append_left _ (List.mem_cons_of_mem _ hpiece), hn⟩
  | .number m, n, hn => ⟨_, List.mem_singleton.mpr rfl, hn⟩
  | .array items, n, hn => ⟨_, List.mem_singleton.mpr rfl, hn⟩
  | .bool _, n, hn => by cases hn
  | .name _, n, hn => by cases hn
  | .operator _, n, hn => by cases hn
  | .call _, n, hn => by cases hn
  | .unknown _, n, hn => by cases hn

/-- The numbers of several terms are those of their pieces. -/
theorem exists_piece_of_mem_numbersAll :
    (items : List Term) → ∀ n ∈ numbersAll items,
      ∃ piece, .term piece ∈ piecesAll items ∧ n ∈ piece.numbers
  | [], n, hn => by cases hn
  | term :: rest, n, hn => by
    rw [numbersAll, List.mem_append] at hn
    rw [piecesAll]
    rcases hn with hn | hn
    · obtain ⟨piece, hpiece, hn⟩ := exists_piece_of_mem_numbers term n hn
      exact ⟨piece, List.mem_append_left _ hpiece, hn⟩
    · obtain ⟨piece, hpiece, hn⟩ := exists_piece_of_mem_numbersAll rest n hn
      exact ⟨piece, List.mem_append_right _ hpiece, hn⟩

end

end Term

/-- A word that starts no array literal has no number in it but the one that it is. -/
theorem Term.read_of_ofWord {word : String} {span : Span} {term : Term} {n : Number}
    (hbracket : word.toList.head? ≠ some '[') (h : ofWord word span = .ok term)
    (hn : n ∈ term.numbers) : Number.read word.toList = .value n := by
  rw [ofWord] at h
  split at h
  · next m hread =>
    cases h
    obtain rfl := List.mem_singleton.mp hn
    exact hread
  · cases h
  · split at h
    · cases h
      cases hn
    · split at h
      · cases h
        cases hn
      · cases h
        rw [(chars_ofSymbol word).2] at hn
        cases hn

namespace Program

variable {source : String} {p : Program}

/-- **Every number of a program comes from a literal that stands in the source.** -/
theorem covers_of_mem_numbers (h : parse source = .ok p) {n : Number} (hn : n ∈ p.numbers) :
    ∃ (span : Span) (text : List Char), span.Covers 0 source.toList text ∧
      Number.read text = .value n := by
  rw [parse] at h
  rcases hscan : Token.scan source with e | tokens <;> rw [hscan] at h
  · cases h
  obtain ⟨stop, hcuts⟩ := Token.scanFrom_eq_ok_iff.mp hscan
  obtain ⟨term, hterm, hn⟩ := Term.exists_piece_of_mem_numbersAll p.items n hn
  obtain ⟨item, hitem, hreads⟩ := exists_mem_of_forall₂ (ofTokens_eq_ok_iff.mp h) hterm
  cases hreads with
  | @array token items hkind hitems =>
    -- the elements are read one by one, each from a word of the literal
    have htoken := (mem_of_atom_mem hitem).1
    obtain ⟨part, hpart, hread⟩ := exists_mem_of_forall₂ (NumberTree.reads_of_ofLiteral hitems)
      (NumberTree.number_mem_pieces (.node items) n hn)
    cases hread with
    | number hnumber hread =>
      exact ⟨part.span, part.text.toList,
        (hcuts.covers htoken).trans (ArrayToken.covers_of_mem hpart).1, hread⟩
  | @word token _ hclose harray hword =>
    have htoken := (mem_of_atom_mem hitem).1
    obtain ⟨_, _, hstands⟩ := hcuts.exists_standsIn htoken
    have hbracket : token.text.toList.head? ≠ some '[' := fun hopen =>
      harray (hstands.isLexeme.literal hopen)
    exact ⟨token.span, token.text.toList, hcuts.covers htoken,
      Term.read_of_ofWord hbracket hword hn⟩

/-- **An error of a number that is too large is one of an integer.** The integer stands where the
error is noticed. -/
theorem covers_of_integerTooLarge {word : String} {span : Span}
    (h : parse source = .error ⟨.integerTooLarge word, span⟩) :
    span.Covers 0 source.toList word.toList ∧ Number.read word.toList = .overflow := by
  obtain ⟨tokens, stop, rest, hcuts, hmalformed | ⟨hscan, token, htoken, hblamed⟩⟩ :=
    blamed_of_parse h
  · cases hmalformed
  have hcovers := hcuts.covers htoken
  cases hblamed with
  | element _ hpart hnone =>
    cases hnone with
    | integerTooLarge _ hread =>
      exact ⟨hcovers.trans (ArrayToken.covers_of_mem hpart).1, hread⟩
  | integerTooLarge _ hread => exact ⟨hcovers, hread⟩

/-- A text that is a word is a program of one term, if the word means one. -/
theorem parse_word {kind : Token.Class} {text : List Char} (h : Token.Word kind text) :
    parse (String.ofList text) =
      (Term.ofWord (String.ofList text) ⟨0, Text.byteLength text⟩).map fun term => ⟨[term]⟩ := by
  have hend : Token.EndsWord [] := fun c hc => by cases hc
  have hkind := h.isWord
  have hscan : Token.scan (String.ofList text) =
      .ok [⟨kind, String.ofList text, ⟨0, Text.byteLength text⟩⟩] := by
    have hfirst : Token.scanFrom 0 (text ++ []) = _ := Token.scanFrom_word h hend
    rw [List.append_nil, Token.scanFrom.eq_def _ []] at hfirst
    rw [Token.scan, String.toList_ofList, hfirst, Token.whole, Nat.zero_add]
    rfl
  rw [parse, hscan]
  cases kind with
  | arrayLiteral | closeBracket | braces => cases hkind
  | _ =>
    change (readBlocks [] [] [.atom _]).map Program.mk = _
    rw [readBlocks, readAtom]
    rcases Term.ofWord (String.ofList text) ⟨0, Text.byteLength text⟩ with e | term <;> rfl

/-- A literal by itself is a program of one number. -/
theorem parse_of_read {kind : Token.Class} {text : List Char} {n : Number}
    (h : Token.Word kind text) (hread : Number.read text = .value n) :
    parse (String.ofList text) = .ok ⟨[.number n]⟩ := by
  rw [parse_word h, Term.ofWord, String.toList_ofList, hread]
  rfl

/-- **Number literals are rounded or refused, and only integers are refused.**

* Every number of a program is what a literal is read as that stands in the source. It is not NaN.
  If it is finite, it is written as a literal again that is read as the same number; it is infinite
  exactly if its literal is a real beyond the doubles, and then what is written of it is no literal.
* Where a number is refused as too large, an integer literal stands that does not fit in 64 bits.
* A real literal by itself is a program, however large it is. -/
theorem literals_rounded_or_refused (source : String) :
    (∀ p, parse source = .ok p → ∀ n ∈ p.numbers, ∃ (span : Span) (text : List Char),
      span.Covers 0 source.toList text ∧ Number.read text = .value n ∧ n.isNaN = false ∧
      (n.isInfinite = false →
        (∃ kind, Token.Word kind n.chars) ∧ Number.read n.chars = .value n) ∧
      (n.isInfinite = true ↔ Number.IsBeyondDoubles text) ∧
      (n.isInfinite = true → Number.read n.chars = .other)) ∧
    (∀ word span, parse source = .error ⟨.integerTooLarge word, span⟩ →
      span.Covers 0 source.toList word.toList ∧
      let (negative, unsigned) := Number.splitSign word.toList
      let magnitude : Int := Nat.ofDigitChars 10 unsigned 0
      Number.isDigits unsigned = true ∧
        Number.int64? (if negative then -magnitude else magnitude) = none) ∧
    (Token.Word .real source.toList → ∃ x, Number.read source.toList = .value (.real x) ∧
      parse source = .ok ⟨[.number (.real x)]⟩) := by
  refine ⟨fun p hparse n hn => ?_, fun word span herror => ?_, fun hword => ?_⟩
  · obtain ⟨span, text, hcovers, hread⟩ := covers_of_mem_numbers hparse hn
    have hnan := Number.isNaN_of_read hread
    exact ⟨span, text, hcovers, hread, hnan,
      fun hfinite => ⟨Number.word_chars ⟨hfinite, hnan⟩, Number.read_chars ⟨hfinite, hnan⟩⟩,
      Number.isInfinite_iff_of_read hread, Number.read_chars_of_isInfinite⟩
  · obtain ⟨hcovers, hread⟩ := covers_of_integerTooLarge herror
    exact ⟨hcovers, Number.overflow_of_read hread⟩
  · obtain ⟨x, hread⟩ := Number.read_of_word_real hword
    have hparse := parse_of_read hword hread
    rw [String.ofList_toList] at hparse
    exact ⟨x, hread, hparse⟩

/-- A literal that is not too large: it is rounded, and what is written of the double is read as the
same double. -/
theorem literals_rounded_or_refused_of_half :
    ∃ x, parse "2.5" = .ok ⟨[.number (.real x)]⟩ ∧ x.isInf = false ∧
      Number.read (Number.real x).chars = .value (.real x) := by
  obtain ⟨hnumbers, -, hreal⟩ := literals_rounded_or_refused "2.5"
  have hstart : Token.StartsInteger '2' [] := ⟨List.forall_mem_nil _, .inl rfl⟩
  obtain ⟨x, hread, hparse⟩ := hreal (.real hstart rfl)
  have hfinite : (Number.real x).isInfinite = false := by
    rw [Bool.eq_false_iff, ne_eq, Number.isInfinite_iff_of_read hread]
    rintro ⟨d, hd, hle⟩
    obtain rfl : ⟨25, 1⟩ = d := Option.some.inj hd
    exact absurd hle (by decide +kernel)
  obtain ⟨_, _, -, -, -, hback, -⟩ := hnumbers _ hparse (.real x) (List.mem_singleton.mpr rfl)
  exact ⟨x, hparse, hfinite, (hback hfinite).2⟩

/-- So it is not true that every number of a program is finite: digits that stand for `10 ^ 309` are
read as infinity. -/
theorem not_finite_of_parse :
    ¬ ∀ source p, parse source = .ok p → ∀ n ∈ p.numbers, n.isInfinite = false := by
  intro h
  let whole : List Char := '1' :: List.replicate 309 '0'
  have hword : Token.Word .real (whole ++ '.' :: ['0']) := by
    refine .real ⟨fun c hc => ?_, .inl rfl⟩ rfl
    rw [List.eq_of_mem_replicate hc]
    rfl
  obtain ⟨x, hread⟩ := Number.read_of_word_real hword
  have hbeyond : Number.IsBeyondDoubles (whole ++ '.' :: ['0']) := by
    have hdigits : ∀ c ∈ whole, c.isDigit = true := by
      intro c hc
      rcases List.mem_cons.mp hc with rfl | hc
      · rfl
      · rw [List.eq_of_mem_replicate hc]
        rfl
    have hnumeral := Decimal.ofChars?_append hdigits (rfl : Number.isDigits ['0'] = true)
    refine ⟨_, hnumeral, ?_⟩
    decide +kernel
  have hfinite := h _ _ (parse_of_read hword hread) (.real x) (List.mem_singleton.mpr rfl)
  rw [(Number.isInfinite_iff_of_read hread).mpr hbeyond] at hfinite
  cases hfinite

end Program

end StackScript

import StackScript.Proofs.Program.Reading

/-!
# Programs, written and read

A program that was read and has no infinite number in it is written as a text that reads as the same
program (`parse_text`). Nothing that stood side by side in the source runs together when it is
written with single spaces, and nothing falls apart: what a program is read as are words, which are
cut as they are wherever no word goes on behind them, array literals and blocks.

The proof is about a term that stands anywhere in a program, with the blocks around it still open
(`ReadsBack`), by induction on how the term was read. An infinite number has to be left out, because
it is written as a name.
-/

namespace StackScript

/-! ## Numbers as words -/

namespace Number

theorem startsInteger_of_isDigits {digits : List Char} (h : isDigits digits = true) :
    Token.StartsInteger '-' digits := by
  obtain ⟨hne, hall⟩ := isDigits_iff.mp h
  exact ⟨hall, .inr ⟨rfl, hne⟩⟩

theorem startsInteger_of_isDigits_cons {first : Char} {digits : List Char}
    (h : isDigits (first :: digits) = true) : Token.StartsInteger first digits := by
  obtain ⟨-, hall⟩ := isDigits_iff.mp h
  exact ⟨fun c hc => hall c (List.mem_cons_of_mem _ hc), .inl (hall first (List.mem_cons_self ..))⟩

/-- A finite number is written as a word. -/
theorem word_chars {n : Number} (h : n.IsFinite) : ∃ kind, Token.Word kind n.chars := by
  obtain ⟨negative, ⟨digits, hdigits, hchars⟩ | ⟨whole, fraction, hwhole, hfraction, hchars⟩⟩ :=
    chars_cases h
  · refine ⟨.integer, ?_⟩
    rw [hchars]
    cases negative with
    | true => exact .integer (startsInteger_of_isDigits hdigits)
    | false =>
      cases digits with
      | nil => cases hdigits
      | cons first digits => exact .integer (startsInteger_of_isDigits_cons hdigits)
  · refine ⟨.real, ?_⟩
    rw [hchars]
    cases negative with
    | true => exact .real (startsInteger_of_isDigits hwhole) hfraction
    | false =>
      cases whole with
      | nil => cases hwhole
      | cons first whole => exact .real (startsInteger_of_isDigits_cons hwhole) hfraction

/-- A finite number is written as a word that means the number. -/
theorem isWord_number {n : Number} (h : n.IsFinite) : ∃ kind, (Term.number n).IsWord kind := by
  obtain ⟨kind, hword⟩ := word_chars h
  refine ⟨kind, hword, fun span => ?_⟩
  rw [Term.ofWord, String.toList_ofList, Term.chars, read_chars h]

end Number

/-! ## Terms -/

open Program (OpenBlock readFrom)

/-- Whether a term reads back wherever it is written: with any blocks open, after any terms, and
before anything that continues no word. -/
def Term.ReadsBack (term : Term) : Prop :=
  ∀ (blocks : List OpenBlock) (done : List Term) (offset : Nat) (rest : List Char),
    Token.EndsWord rest →
    readFrom blocks done offset (term.chars ++ rest) =
      readFrom blocks (term :: done) (offset + Text.byteLength term.chars) rest

/-- Terms that read back do so with spaces between them. -/
theorem Program.readFrom_spaced {items : List Term} (h : ∀ term ∈ items, term.ReadsBack)
    (blocks : List OpenBlock) (done : List Term) (offset : Nat) {rest : List Char}
    (hrest : Token.EndsWord rest) :
    readFrom blocks done offset (Term.spaced items ++ rest) =
      readFrom blocks (items.reverse ++ done) (offset + Text.byteLength (Term.spaced items))
        rest := by
  induction items generalizing done offset with
  | nil => rfl
  | cons term items ih =>
    have hterm := h term (List.mem_cons_self ..)
    cases items with
    | nil => exact hterm blocks done offset rest hrest
    | cons next items =>
      have hspace : Token.EndsWord (' ' :: (Term.spaced (next :: items) ++ rest)) :=
        Token.endsWord_cons (by decide) (by decide)
      have hdone : (term :: next :: items).reverse ++ done =
          (next :: items).reverse ++ term :: done := by
        rw [List.reverse_cons, List.append_assoc]
        rfl
      rw [Term.spaced, List.append_assoc, List.cons_append, hterm blocks done offset _ hspace,
        readFrom_blank (by decide), ih fun term hterm => h term (List.mem_cons_of_mem _ hterm),
        hdone, Text.byteLength_append, Text.byteLength_cons, Nat.add_assoc, Nat.add_assoc]

/-- A term that can be read reads back, if no number in it is infinite. -/
theorem Term.IsRead.readsBack {term : Term} (h : term.IsRead)
    (hfinite : ∀ n ∈ term.numbers, n.isInfinite = false) : term.ReadsBack := by
  intro blocks done offset rest hrest
  induction h generalizing blocks done offset rest with
  | word h _ => exact Program.readFrom_word h hrest
  | @number n h =>
    obtain ⟨kind, hword⟩ := Number.isWord_number ⟨hfinite n (List.mem_singleton.mpr rfl), h⟩
    exact Program.readFrom_word hword hrest
  | array h => exact Program.readFrom_array fun n hn => ⟨hfinite n hn, h n hn⟩
  | @proc body _ ih =>
    have hbody : ∀ term ∈ body, term.ReadsBack := fun term hterm =>
      ih term hterm fun n hn => hfinite n (mem_numbersAll.mpr ⟨term, hterm, hn⟩)
    have hclose : Token.EndsWord ('}' :: rest) :=
      Token.endsWord_cons (by decide) (by decide)
    obtain ⟨span, hopening⟩ :
        ∃ span, readFrom blocks done offset ('{' :: (spaced body ++ '}' :: rest)) =
          readFrom (⟨span, done⟩ :: blocks) [] (offset + 1) (spaced body ++ '}' :: rest) :=
      Program.readFrom_opening
    rw [chars, List.cons_append, List.cons_append, List.append_assoc, List.singleton_append,
      hopening, Program.readFrom_spaced hbody _ _ _ hclose, Program.readFrom_closing,
      List.append_nil, List.reverse_reverse, Text.byteLength_cons, Text.byteLength_append,
      Nat.add_assoc, Nat.add_assoc]
    rfl

/-! ## Equality -/

mutual

/-- A tree without NaN equals itself. -/
theorem NumberTree.beq_self :
    (tree : NumberTree) → (∀ n ∈ tree.numbers, n.isNaN = false) → tree.beq tree = true
  | .leaf n, h => Number.beq_self (h n (List.mem_singleton.mpr rfl))
  | .node items, h => NumberTree.beqAll_self items h

theorem NumberTree.beqAll_self :
    (items : List NumberTree) → NoNaN items → beqAll items items = true
  | [], _ => rfl
  | tree :: items, h => by
    rw [NumberTree.beqAll, NumberTree.beq_self tree fun n hn => h n (List.mem_append_left _ hn),
      NumberTree.beqAll_self items fun n hn => h n (List.mem_append_right _ hn)]
    rfl

end

mutual

/-- A term without NaN equals itself. -/
theorem Term.beq_self :
    (term : Term) → (∀ n ∈ term.numbers, n.isNaN = false) → term.beq term = true
  | .number n, h => Number.beq_self (h n (List.mem_singleton.mpr rfl))
  | .bool _, _ | .name _, _ | .operator _, _ | .call _, _ | .unknown _, _ => beq_self_eq_true _
  | .array items, h => NumberTree.beqAll_self items h
  | .proc body, h => Term.beqAll_self body h

theorem Term.beqAll_self :
    (items : List Term) → (∀ n ∈ numbersAll items, n.isNaN = false) → beqAll items items = true
  | [], _ => rfl
  | term :: items, h => by
    rw [Term.beqAll, Term.beq_self term fun n hn => h n (List.mem_append_left _ hn),
      Term.beqAll_self items fun n hn => h n (List.mem_append_right _ hn)]
    rfl

end

/-! ## Programs -/

namespace Program

/-- Terms that can be read are read from the text of a program made of them. -/
theorem parse_text_of_isRead {p : Program} (h : ∀ term ∈ p.items, term.IsRead)
    (hfinite : ∀ n ∈ p.numbers, n.isInfinite = false) : parse p.text = .ok p := by
  have hitems : ∀ term ∈ p.items, term.ReadsBack := fun term hterm =>
    (h term hterm).readsBack fun n hn => hfinite n (Term.mem_numbersAll.mpr ⟨term, hterm, hn⟩)
  have hend : Token.EndsWord [] := fun c hc => by cases hc
  have hread := readFrom_spaced hitems [] [] 0 hend
  rw [List.append_nil, List.append_nil, readFrom_nil, List.reverse_reverse] at hread
  rw [parse_eq, text, String.toList_ofList, hread]
  rfl

/-- **A program that was read is written as a text that reads as the same program**, if none of its
number literals, at whatever depth, is infinite. What is read again is the same tree and equals the
program also in the sense of the language, and it is written as the same text. -/
theorem parse_text {source : String} {p : Program} (hparse : parse source = .ok p)
    (hfinite : ∀ n ∈ p.numbers, n.isInfinite = false) :
    ∃ q, parse p.text = .ok q ∧ q = p ∧ (q == p) = true ∧ q.text = p.text := by
  have hread := isRead_of_parse hparse
  refine ⟨p, parse_text_of_isRead hread hfinite, rfl, Term.beqAll_self p.items fun n hn => ?_, rfl⟩
  obtain ⟨term, hterm, hn⟩ := Term.mem_numbersAll.mp hn
  exact (hread term hterm).isNaN n hn

/-- A lone minus sign, a block and a name that touch each other, with a number in the block that is
not written as it is printed, and an array. -/
theorem parse_text_of_touching :
    let source := "-\x7b2.50[1]\x7d/x"
    let x := Decimal.toFloat ⟨250, 2⟩
    let p : Program :=
      ⟨[.unknown ⟨"-"⟩, .proc [.number (.real x), .array [.leaf (.int 1)]], .name ⟨"/x"⟩]⟩
    parse source = .ok p ∧ (∀ n ∈ p.numbers, n.isInfinite = false) ∧
      ∃ q, parse p.text = .ok q ∧ q = p ∧ (q == p) = true ∧ q.text = p.text := by
  intro source x p
  let tokens : List Token := [⟨.symbol, "-", ⟨0, 1⟩⟩, ⟨.braces, "\x7b", ⟨1, 2⟩⟩,
    ⟨.real, "2.50", ⟨2, 6⟩⟩, ⟨.arrayLiteral, "[1]", ⟨6, 9⟩⟩, ⟨.braces, "\x7d", ⟨9, 10⟩⟩,
    ⟨.name, "/x", ⟨10, 12⟩⟩]
  have hscan : Token.scan source = .ok tokens := by
    have hsome : (Token.scan source).toOption = some tokens := by decide +kernel
    rcases hresult : Token.scan source with e | result <;> rw [hresult] at hsome <;> cases hsome
    rfl
  have htext : String.ofList (NumberTree.chars (.node [.leaf (.int 1)])) = "[1]" := by
    decide +kernel
  have hliteral : NumberTree.ofLiteral "[1]" 6 = .ok [.leaf (.int 1)] := by
    rw [← htext]
    refine NumberTree.ofLiteral_spaced (fun n hn => ?_) 6
    obtain rfl := List.mem_singleton.mp hn
    exact ⟨rfl, rfl⟩
  have harray : readAtom ⟨.arrayLiteral, "[1]", ⟨6, 9⟩⟩ = .ok (.array [.leaf (.int 1)]) :=
    congrArg (Except.map Term.array) hliteral
  have hdash : readAtom ⟨.symbol, "-", ⟨0, 1⟩⟩ = .ok (.unknown ⟨"-"⟩) := rfl
  have hreal : readAtom ⟨.real, "2.50", ⟨2, 6⟩⟩ = .ok (.number (.real x)) := rfl
  have hname : readAtom ⟨.name, "/x", ⟨10, 12⟩⟩ = .ok (.name ⟨"/x"⟩) := rfl
  have hitems : tokens.flatMap Item.ofToken =
      [.atom ⟨.symbol, "-", ⟨0, 1⟩⟩, .opening (.point 1), .atom ⟨.real, "2.50", ⟨2, 6⟩⟩,
        .atom ⟨.arrayLiteral, "[1]", ⟨6, 9⟩⟩, .closing (.point 9),
        .atom ⟨.name, "/x", ⟨10, 12⟩⟩] := rfl
  have hparse : parse source = .ok p := by
    rw [parse, hscan]
    dsimp only
    rw [ofTokens, hitems]
    simp only [readBlocks, hdash, hreal, harray, hname]
    rfl
  have hx : (Decimal.toFloat ⟨250, 2⟩).isInf = false := by decide +kernel
  have hfinite : ∀ n ∈ p.numbers, n.isInfinite = false := by
    intro n hn
    rcases List.mem_cons.mp hn with rfl | hn
    · exact hx
    · obtain rfl := List.mem_singleton.mp hn
      rfl
  exact ⟨hparse, hfinite, parse_text hparse hfinite⟩

end Program

end StackScript

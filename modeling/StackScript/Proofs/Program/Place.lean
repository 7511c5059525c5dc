import StackScript.Proofs.Program.Rejection

/-!
# Where parse errors are noticed

Every token, every piece that a token falls apart into, and every error covers a piece of the
program text: its span is a place where that piece stands (`Span.Covers`). Pieces of a piece are
found where they stand in the whole (`Span.Covers.trans`), so it makes no difference that a run of
braces and an array literal are taken apart later, with offsets of their own.

An error covers a piece of the program that bears its cause out (`error_stands_in_source`).
-/

namespace StackScript

/-! ## Pieces of a text -/

/-- In a text whose first byte has the given offset, the span is a place where the piece stands. -/
def Span.Covers (span : Span) (offset : Nat) (text piece : List Char) : Prop :=
  ∃ before after, text = before ++ (piece ++ after) ∧
    span = ⟨offset + Text.byteLength before,
      offset + Text.byteLength before + Text.byteLength piece⟩

namespace Span.Covers

variable {span : Span} {offset : Nat} {text piece : List Char}

/-- What stands at the front of a text. -/
theorem front (offset : Nat) (piece after : List Char) :
    Span.Covers ⟨offset, offset + Text.byteLength piece⟩ offset (piece ++ after) piece :=
  ⟨[], after, rfl, rfl⟩

/-- What stands in the rest of a text. -/
theorem append_left {before : List Char}
    (h : span.Covers (offset + Text.byteLength before) text piece) :
    span.Covers offset (before ++ text) piece := by
  obtain ⟨more, after, rfl, rfl⟩ := h
  refine ⟨before ++ more, after, (List.append_assoc ..).symm, ?_⟩
  rw [Text.byteLength_append, ← Nat.add_assoc]

/-- What stands behind the first character. -/
theorem cons {c : Char} (h : span.Covers (offset + c.utf8Size) text piece) :
    span.Covers offset (c :: text) piece := by
  rw [← Nat.add_zero c.utf8Size, ← Text.byteLength_nil, ← Text.byteLength_cons] at h
  exact h.append_left

/-- What stands in a beginning of a text. -/
theorem append_right (h : span.Covers offset text piece) (after : List Char) :
    span.Covers offset (text ++ after) piece := by
  obtain ⟨before, more, rfl, rfl⟩ := h
  exact ⟨before, more ++ after, by simp only [List.append_assoc], rfl⟩

/-- **A piece of a piece stands in the whole.** -/
theorem trans {middle : List Char} {part : Span} (h : span.Covers offset text middle)
    (hpart : part.Covers span.start middle piece) : part.Covers offset text piece := by
  obtain ⟨before, after, rfl, rfl⟩ := h
  exact (hpart.append_right after).append_left

end Span.Covers

/-! ## What tokens cover -/

/-- Every token covers its text. -/
theorem Token.Cuts.covers {offset stop : Nat} {text rest : List Char} {tokens : List Token}
    {token : Token} (h : Cuts offset text tokens stop rest) (hmem : token ∈ tokens) :
    token.span.Covers offset text token.text.toList := by
  obtain ⟨before, more, after, htext, htoken, -⟩ := h.whole_of_mem hmem
  refine ⟨before, after, ?_, ?_⟩
  · rw [htoken, whole, String.toList_ofList, htext]
  · rw [htoken, whole, String.toList_ofList]

/-- The rest of a text that is cut stands behind what is cut off. -/
theorem Token.Cuts.exists_before {offset stop : Nat} {text rest : List Char} {tokens : List Token}
    (h : Cuts offset text tokens stop rest) :
    ∃ before, text = before ++ rest ∧ stop = offset + Text.byteLength before := by
  induction h with
  | gap => exact ⟨_, rfl, rfl⟩
  | @token offset stop gap text after rest kind tokens _ _ _ ih =>
    obtain ⟨before, rfl, rfl⟩ := ih
    refine ⟨gap ++ (text ++ before), by simp only [List.append_assoc], ?_⟩
    simp only [Text.byteLength_append, Nat.add_assoc]

/-- What stands at the front is cut off where it stands. -/
theorem ArrayToken.covers_ofChars (kind : Class) (offset : Nat) (piece after : List Char) :
    (ofChars kind offset piece).span.Covers offset (piece ++ after)
      (ofChars kind offset piece).text.toList := by
  rw [ofChars, String.toList_ofList]
  exact .front offset piece after

/-- Every part of an array literal covers its text, and there is some. -/
theorem ArrayToken.covers_of_mem {offset : Nat} {text : List Char} {part : ArrayToken}
    (h : part ∈ scanFrom offset text) :
    part.span.Covers offset text part.text.toList ∧ part.text ≠ "" := by
  fun_induction scanFrom offset text with
  | case1 => cases h
  | case2 offset c rest hblank ih =>
    obtain ⟨hcovers, hne⟩ := ih h
    exact ⟨hcovers.cons, hne⟩
  | case3 offset rest hblank ih =>
    rcases List.mem_cons.mp h with rfl | h
    · exact ⟨covers_ofChars _ offset ['['] rest, by simp [ofChars]⟩
    · obtain ⟨hcovers, hne⟩ := ih h
      exact ⟨hcovers.cons, hne⟩
  | case4 offset rest hblank hopen ih =>
    rcases List.mem_cons.mp h with rfl | h
    · exact ⟨covers_ofChars _ offset [']'] rest, by simp [ofChars]⟩
    · obtain ⟨hcovers, hne⟩ := ih h
      exact ⟨hcovers.cons, hne⟩
  | case5 offset c rest hblank hopen hclose more word ih =>
    have hsplit : c :: rest = word ++ rest.drop more.length := cons_eq_word_append c rest
    rw [hsplit]
    rcases List.mem_cons.mp h with rfl | h
    · exact ⟨covers_ofChars _ offset word _, by simp [ofChars, word]⟩
    · obtain ⟨hcovers, hne⟩ := ih h
      exact ⟨hcovers.append_left, hne⟩

namespace Program.Item

/-- Every item of a run covers a brace, and it is what that brace is. -/
theorem exists_of_mem_ofBraces {offset : Nat} {run : List Char} {item : Item}
    (hrun : ∀ c ∈ run, Token.isBrace c = true) (h : item ∈ ofBraces offset run) :
    ∃ c span, span.Covers offset run [c] ∧
      (c = '{' ∧ item = .opening span ∨ c = '}' ∧ item = .closing span) := by
  induction run generalizing offset with
  | nil => cases h
  | cons c run ih =>
    rcases List.mem_cons.mp h with rfl | h
    · rcases Bool.or_eq_true_iff.mp (hrun c List.mem_cons_self) with hc | hc <;>
        obtain rfl := beq_iff_eq.mp hc
      · exact ⟨'{', .point offset, .front offset ['{'] run, .inl ⟨rfl, rfl⟩⟩
      · exact ⟨'}', .point offset, .front offset ['}'] run, .inr ⟨rfl, rfl⟩⟩
    · obtain ⟨d, span, hcovers, hitem⟩ := ih (fun d hd => hrun d (List.mem_cons_of_mem _ hd)) h
      exact ⟨d, span, hcovers.cons, hitem⟩

/-- Every brace of a token covers that brace. -/
theorem covers_of_mem_ofToken {token : Token} {after : List Char}
    (hlexeme : Token.IsLexeme token.kind token.text.toList after) {span : Span} :
    (.opening span ∈ ofToken token → span.Covers token.span.start token.text.toList ['{']) ∧
      (.closing span ∈ ofToken token → span.Covers token.span.start token.text.toList ['}']) := by
  by_cases hkind : token.kind = .braces
  · have hrun : ∀ c ∈ token.text.toList, Token.isBrace c = true := by
      have haccepts := hlexeme.accepts
      rw [hkind] at haccepts
      generalize token.text.toList = run at haccepts ⊢
      cases haccepts with
      | word h => cases h
      | braces h => exact h
    rw [ofToken, hkind]
    refine ⟨fun h => ?_, fun h => ?_⟩
    · obtain ⟨c, place, hcovers, ⟨rfl, hitem⟩ | ⟨-, hitem⟩⟩ := exists_of_mem_ofBraces hrun h
      · cases hitem
        exact hcovers
      · cases hitem
    · obtain ⟨c, place, hcovers, ⟨-, hitem⟩ | ⟨rfl, hitem⟩⟩ := exists_of_mem_ofBraces hrun h
      · cases hitem
      · cases hitem
        exact hcovers
  · have hatom : ofToken token = [.atom token] := by
      rw [ofToken.eq_def]
      split
      · next h => exact absurd h hkind
      · rfl
    rw [hatom]
    refine ⟨fun h => ?_, fun h => ?_⟩ <;> cases List.mem_singleton.mp h

end Program.Item

/-! ## What errors cover -/

namespace ParseError

/-- The text, which stands in the program behind the text `before` and in front of the text `after`,
is the beginning of an array literal that stands in no other and stays open to the end of it. -/
structure OpensLiteral (before text after : String) : Prop where
  /-- the program is cut into tokens up to there, so the place is within none of them -/
  outside : ∃ tokens, Token.Cuts 0 (before ++ text ++ after).toList tokens before.utf8ByteSize
    (text ++ after).toList
  /-- the text starts with the bracket of the literal, and nothing in it closes the literal -/
  staysOpen : ∃ inside, text.toList = '[' :: inside ∧ Token.StaysOpen 0 inside

/-- What the cause of an error says about the text that the error covers, which stands in the
program between two others. -/
inductive Cause.Describes (before text after : String) : Cause → Prop where
  /-- it is an array literal that stays open to the end of the program -/
  | arrayNotClosed (h : OpensLiteral before text after) (hend : after = "") :
    Describes before text after .arrayNotClosed
  /-- it is an array literal up to a character that may not stand in it, and that is the next one -/
  | arrayCharacter {c : Char} {rest : List Char} (h : OpensLiteral before text after)
    (hafter : after.toList = c :: rest) (hc : ¬ Token.MayStand c) :
    Describes before text after (.arrayCharacter c)
  /-- it is a brace that closes a block -/
  | strayBrace (h : text = "\x7d") : Describes before text after .strayBrace
  /-- it is a brace that opens a block -/
  | openBlock (h : text = "\x7b") : Describes before text after .openBlock
  /-- it is a bracket that closes an array -/
  | strayBracket (h : text = "]") : Describes before text after .strayBracket
  /-- it is what is said to be no number -/
  | notANumber : Describes before text after (.notANumber text)
  /-- it is what is said to be an integer that is too large -/
  | integerTooLarge : Describes before text after (.integerTooLarge text)

/-- The error is noticed in the program at a text that bears its cause out, between the texts
`before` and `after`. -/
structure StandsIn (source : String) (e : ParseError) (before text after : String) : Prop where
  /-- the texts are the program -/
  source_eq : source = before ++ text ++ after
  /-- the span is the place between the texts -/
  span_eq : e.span = ⟨before.utf8ByteSize, (before ++ text).utf8ByteSize⟩
  /-- at least one byte stands there -/
  start_lt_stop : e.span.start < e.span.stop
  /-- the cause is borne out -/
  describes : e.cause.Describes before text after

section Stand

variable {source : String} {e : ParseError} {piece : List Char}

theorem standsIn_of_lists {before after : List Char}
    (hsource : source.toList = before ++ (piece ++ after))
    (hspan : e.span = ⟨Text.byteLength before, Text.byteLength before + Text.byteLength piece⟩)
    (hne : piece ≠ [])
    (h : e.cause.Describes (String.ofList before) (String.ofList piece) (String.ofList after)) :
    e.StandsIn source (String.ofList before) (String.ofList piece) (String.ofList after) := by
  refine ⟨Text.eq_append_of_toList hsource, ?_, ?_, h⟩
  · rw [hspan]
    exact Text.span_eq_of_pieces before piece
  · rw [hspan]
    exact Nat.lt_add_of_pos_right (Text.byteLength_pos hne)

/-- An error that covers a piece of the program stands in it, if that piece bears the cause out
wherever it stands. -/
theorem exists_standsIn_of_covers (h : e.span.Covers 0 source.toList piece) (hne : piece ≠ [])
    (hcause : ∀ before after, e.cause.Describes before (String.ofList piece) after) :
    ∃ before text after, e.StandsIn source before text after := by
  obtain ⟨before, after, hsource, hspan⟩ := h
  rw [Nat.zero_add] at hspan
  exact ⟨_, _, _, standsIn_of_lists hsource hspan hne (hcause _ _)⟩

theorem opensLiteral_of_lists {before inside after : List Char} {tokens : List Token}
    (hcuts : Token.Cuts 0 (before ++ ('[' :: inside ++ after)) tokens (Text.byteLength before)
      ('[' :: inside ++ after)) (h : Token.StaysOpen 0 inside) :
    OpensLiteral (String.ofList before) (String.ofList ('[' :: inside)) (String.ofList after) := by
  refine ⟨⟨tokens, ?_⟩, inside, String.toList_ofList, h⟩
  rw [← Text.byteLength_toList]
  simpa only [String.toList_append, String.toList_ofList, List.append_assoc] using hcuts

/-- An array literal that does not end as it should stands in the program that is cut up to it. -/
theorem exists_standsIn_of_malformed {tokens : List Token} {stop : Nat} {rest : List Char}
    (hcuts : Token.Cuts 0 source.toList tokens stop rest) (h : Token.Malformed stop rest e) :
    ∃ before text after, e.StandsIn source before text after := by
  obtain ⟨before, hsource, hstop⟩ := hcuts.exists_before
  rw [Nat.zero_add] at hstop
  subst hstop
  cases h with
  | @unclosed inside hopen =>
    rw [← List.append_nil ('[' :: inside)] at hsource hcuts
    rw [hsource] at hcuts
    exact ⟨_, _, _, standsIn_of_lists hsource rfl (List.cons_ne_nil _ _)
      (.arrayNotClosed (opensLiteral_of_lists hcuts hopen) rfl)⟩
  | @character inside after c hopen hc =>
    rw [hsource] at hcuts
    exact ⟨_, _, _, standsIn_of_lists hsource rfl (List.cons_ne_nil _ _)
      (.arrayCharacter (opensLiteral_of_lists hcuts hopen) String.toList_ofList hc)⟩

end Stand

end ParseError

namespace Program

/-- **Every parse error points into the source.** -/
theorem error_stands_in_source {source : String} {e : ParseError} (h : parse source = .error e) :
    ∃ before text after, e.StandsIn source before text after := by
  obtain ⟨tokens, stop, rest, hcuts, hmalformed | ⟨hscan, token, htoken, hblamed⟩⟩ :=
    blamed_of_parse h
  · exact ParseError.exists_standsIn_of_malformed hcuts hmalformed
  have hcovers := hcuts.covers htoken
  obtain ⟨_, _, hstands⟩ := hcuts.exists_standsIn htoken
  have hne : token.text.toList ≠ [] := hstands.isLexeme.ne_nil
  cases hblamed with
  | strayBrace hmem =>
    have hbrace := (Item.covers_of_mem_ofToken hstands.isLexeme).2 hmem
    exact ParseError.exists_standsIn_of_covers (hcovers.trans hbrace) (by simp)
      fun _ _ => .strayBrace rfl
  | openBlock hmem =>
    have hbrace := (Item.covers_of_mem_ofToken hstands.isLexeme).1 hmem
    exact ParseError.exists_standsIn_of_covers (hcovers.trans hbrace) (by simp)
      fun _ _ => .openBlock rfl
  | strayBracket hkind =>
    refine ParseError.exists_standsIn_of_covers hcovers hne fun _ _ => .strayBracket ?_
    rw [String.ofList_toList, text_of_closeBracket hstands.isLexeme hkind]
  | @element part e _ hpart hnone =>
    obtain ⟨hpartCovers, hpartNe⟩ := ArrayToken.covers_of_mem hpart
    have hplace := hcovers.trans hpartCovers
    have hpiece : part.text.toList ≠ [] := by simpa using hpartNe
    cases hnone with
    | notANumber =>
      refine ParseError.exists_standsIn_of_covers hplace hpiece fun _ _ => ?_
      rw [String.ofList_toList]
      exact .notANumber
    | integerTooLarge =>
      refine ParseError.exists_standsIn_of_covers hplace hpiece fun _ _ => ?_
      rw [String.ofList_toList]
      exact .integerTooLarge
  | integerTooLarge =>
    refine ParseError.exists_standsIn_of_covers hcovers hne fun _ _ => ?_
    rw [String.ofList_toList]
    exact .integerTooLarge

/-- A word of a literal within a literal, behind blanks of two bytes each. -/
theorem error_stands_in_source_of_nested :
    let source := "\u00a0[[1]\u00a0x]"
    let e : ParseError := ⟨.notANumber "x", ⟨8, 9⟩⟩
    parse source = .error e ∧ ∃ before text after, e.StandsIn source before text after := by
  intro source e
  have hscan : Token.scan source = .ok [⟨.arrayLiteral, "[[1]\u00a0x]", ⟨2, 10⟩⟩] := by
    decide +kernel
  have hparts : ArrayToken.scan "[[1]\u00a0x]" 2 = [⟨.opening, "[", ⟨2, 3⟩⟩,
      ⟨.opening, "[", ⟨3, 4⟩⟩, ⟨.number, "1", ⟨4, 5⟩⟩, ⟨.closing, "]", ⟨5, 6⟩⟩,
      ⟨.other, "x", ⟨8, 9⟩⟩, ⟨.closing, "]", ⟨9, 10⟩⟩] := by decide +kernel
  have hread : NumberTree.ofLiteral "[[1]\u00a0x]" 2 = .error e := by
    rw [NumberTree.ofLiteral, hparts]
    rfl
  have hparse : parse source = .error e := by
    rw [parse, hscan]
    simp [ofTokens, Item.ofToken, readBlocks, readAtom, hread, Except.map]
  exact ⟨hparse, error_stands_in_source hparse⟩

end Program

end StackScript

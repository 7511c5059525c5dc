import StackScript.Program.Parse
import StackScript.Proofs.NumberTree.Literal
import StackScript.Proofs.Token.Cutting

/-!
# Texts that stand further to the right

The front end counts bytes from the start of the program, but nothing it decides depends on where a
text starts. If the text starts so many bytes further to the right, so do its tokens and the place
of its error, and nothing else changes: not for scanning (`scanFrom_shift`), not for array literals
(`ofLiteral_shift`), and not for pairing braces (`ofTokens_shift`).
-/

namespace StackScript

/-! ## Moving places -/

/-- The error, noticed so many bytes further to the right. -/
def ParseError.shift (e : ParseError) (bytes : Nat) : ParseError :=
  { e with span := e.span.shift bytes }

/-- The token, so many bytes further to the right. -/
def Token.shift (token : Token) (bytes : Nat) : Token :=
  { token with span := token.span.shift bytes }

/-- The token of an array literal, so many bytes further to the right. -/
def ArrayToken.shift (token : ArrayToken) (bytes : Nat) : ArrayToken :=
  { token with span := token.span.shift bytes }

/-- The array that is being read, so many bytes further to the right. -/
def NumberTree.OpenArray.shift (array : OpenArray) (bytes : Nat) : OpenArray :=
  { array with span := array.span.shift bytes }

/-- The item, so many bytes further to the right. -/
def Program.Item.shift (item : Item) (bytes : Nat) : Item :=
  match item with
  | .opening span => .opening (span.shift bytes)
  | .closing span => .closing (span.shift bytes)
  | .atom token => .atom (token.shift bytes)

/-- The block that is being read, so many bytes further to the right. -/
def Program.OpenBlock.shift (block : OpenBlock) (bytes : Nat) : OpenBlock :=
  { block with span := block.span.shift bytes }

variable {bytes offset : Nat}

/-- A place that starts further to the right and takes as many bytes. -/
theorem Span.shift_of_length (start length bytes : Nat) :
    (⟨start + bytes, start + bytes + length⟩ : Span) =
      Span.shift ⟨start, start + length⟩ bytes := by
  rw [Span.shift, Nat.add_right_comm]

theorem Span.point_shift (offset bytes : Nat) :
    Span.point (offset + bytes) = (Span.point offset).shift bytes :=
  Span.shift_of_length ..

/-! ## Tokens -/

namespace Token

theorem whole_shift (kind : Class) (offset : Nat) (text : List Char) :
    whole kind (offset + bytes) text = (whole kind offset text).shift bytes :=
  congrArg (Token.mk kind (String.ofList text)) (Span.shift_of_length ..)

theorem Cuts.shift {stop : Nat} {text rest : List Char} {tokens : List Token}
    (h : Cuts offset text tokens stop rest) (bytes : Nat) :
    Cuts (offset + bytes) text (tokens.map (·.shift bytes)) (stop + bytes) rest := by
  induction h with
  | gap hgap =>
    rw [Nat.add_right_comm]
    exact .gap hgap
  | token hgap htext _ ih =>
    rw [List.map_cons, ← whole_shift, Nat.add_right_comm]
    rw [Nat.add_right_comm, Nat.add_right_comm _ _ bytes] at ih
    exact .token hgap htext ih

theorem Malformed.shift {start : Nat} {text : List Char} {e : ParseError}
    (h : Malformed start text e) (bytes : Nat) :
    Malformed (start + bytes) text (e.shift bytes) := by
  cases h with
  | unclosed h =>
    rw [ParseError.shift, ← Span.shift_of_length]
    exact .unclosed h
  | character h hc =>
    rw [ParseError.shift, ← Span.shift_of_length]
    exact .character h hc

/-- **Where a text starts makes no difference to how it is cut.** -/
theorem scanFrom_shift (offset : Nat) (text : List Char) (bytes : Nat) :
    scanFrom (offset + bytes) text =
      ((scanFrom offset text).map (List.map (·.shift bytes))).mapError (·.shift bytes) := by
  obtain ⟨tokens, stop, rest, hcuts, hstop⟩ := exists_cuts offset text
  rw [scanFrom_cuts hcuts, scanFrom_cuts (hcuts.shift bytes)]
  rcases hstop with rfl | ⟨e, hmalformed⟩
  · rw [scanFrom_nil, scanFrom_nil]
    simp [Except.map, Except.mapError]
  · rw [scanFrom_malformed hmalformed, scanFrom_malformed (hmalformed.shift bytes)]
    rfl

end Token

/-! ## Array literals -/

namespace ArrayToken

theorem ofChars_shift (kind : Class) (offset : Nat) (text : List Char) :
    ofChars kind (offset + bytes) text = (ofChars kind offset text).shift bytes :=
  congrArg (ArrayToken.mk kind (String.ofList text)) (Span.shift_of_length ..)

theorem scanFrom_shift (offset : Nat) (text : List Char) (bytes : Nat) :
    scanFrom (offset + bytes) text = (scanFrom offset text).map (·.shift bytes) := by
  fun_induction scanFrom offset text with
  | case1 => rw [scanFrom_nil, List.map_nil]
  | case2 offset c rest hblank ih => rw [scanFrom_blank hblank, Nat.add_right_comm, ih]
  | case3 offset rest hblank ih =>
    rw [scanFrom_opening, ofChars_shift, Nat.add_right_comm]
    exact congrArg _ ih
  | case4 offset rest hblank hopen ih =>
    rw [scanFrom_closing, ofChars_shift, Nat.add_right_comm]
    exact congrArg _ ih
  | case5 offset c rest hblank hopen hclose more word ih =>
    rw [scanFrom.eq_def]
    dsimp only
    rw [if_neg hblank, if_neg hopen, if_neg hclose, ofChars_shift, Nat.add_right_comm, ih]
    rfl

end ArrayToken

namespace NumberTree

theorem unexpected_shift (token : ArrayToken) :
    unexpected (token.shift bytes) = (unexpected token).shift bytes := by
  obtain ⟨kind, text, span⟩ := token
  cases kind <;> rfl

theorem readNumber_shift (token : ArrayToken) :
    readNumber (token.shift bytes) = (readNumber token).mapError (·.shift bytes) := by
  obtain ⟨kind, text, span⟩ := token
  rw [readNumber, readNumber]
  dsimp only [ArrayToken.shift]
  cases kind <;> cases Number.read text.toList <;> rfl

theorem readInside_shift (outer : List OpenArray) (inner : OpenArray) (tokens : List ArrayToken) :
    readInside (outer.map (·.shift bytes)) (inner.shift bytes) (tokens.map (·.shift bytes)) =
      (readInside outer inner tokens).mapError (·.shift bytes) := by
  fun_induction readInside outer inner tokens with
  | case1 => rfl
  | case2 outer inner token rest hkind ih =>
    obtain ⟨kind, text, span⟩ := token
    obtain rfl : kind = .opening := hkind
    exact ih
  | case3 inner token rest around outer hkind ih =>
    obtain ⟨kind, text, span⟩ := token
    obtain rfl : kind = .closing := hkind
    exact ih
  | case4 inner token hkind =>
    obtain ⟨kind, text, span⟩ := token
    obtain rfl : kind = .closing := hkind
    rfl
  | case5 inner token extra tail hkind =>
    obtain ⟨kind, text, span⟩ := token
    obtain rfl : kind = .closing := hkind
    exact congrArg Except.error (unexpected_shift extra)
  | case6 outer inner token rest n hread _ _ _ _ ih =>
    have hshifted : readNumber (token.shift bytes) = .ok n := by
      rw [readNumber_shift, hread]
      rfl
    rw [List.map_cons, readInside_number (kind_of_readNumber hshifted) hshifted]
    exact ih
  | case7 outer inner token rest e hread hopen hinner hlast hextra =>
    have hclose := kind_ne_closing hinner hlast hextra
    have hshifted : readNumber (token.shift bytes) = .error (e.shift bytes) := by
      rw [readNumber_shift, hread]
      rfl
    exact readInside_error hopen hclose hshifted

/-- **Where an array literal starts makes no difference to how it is read.** -/
theorem ofLiteral_shift (literal : String) (offset bytes : Nat) :
    ofLiteral literal (offset + bytes) =
      (ofLiteral literal offset).mapError (·.shift bytes) := by
  rw [ofLiteral, ofLiteral, ArrayToken.scan, ArrayToken.scan, ArrayToken.scanFrom_shift]
  rcases ArrayToken.scanFrom offset literal.toList with _ | ⟨token, rest⟩
  · rw [List.map_nil, Span.point_shift]
    rfl
  · obtain ⟨kind, text, span⟩ := token
    cases kind with
    | opening => exact readInside_shift [] ⟨span, []⟩ rest
    | closing | number | other => rfl

end NumberTree

/-! ## Programs -/

theorem Term.ofWord_shift (word : String) (span : Span) (bytes : Nat) :
    Term.ofWord word (span.shift bytes) = (Term.ofWord word span).mapError (·.shift bytes) := by
  have hliteral : (NumberTree.ofLiteral word (span.start + bytes)).map Term.array =
      ((NumberTree.ofLiteral word span.start).map Term.array).mapError (·.shift bytes) := by
    rw [NumberTree.ofLiteral_shift]
    cases NumberTree.ofLiteral word span.start <;> rfl
  rw [Term.ofWord, Term.ofWord]
  cases Number.read word.toList with
  | value n => rfl
  | overflow => rfl
  | other =>
    dsimp only
    split
    · rfl
    · split
      · rfl
      · split
        · exact hliteral
        · rfl

namespace Program

theorem readAtom_shift (token : Token) :
    readAtom (token.shift bytes) = (readAtom token).mapError (·.shift bytes) := by
  obtain ⟨kind, text, span⟩ := token
  cases kind with
  | closeBracket => rfl
  | arrayLiteral =>
    change (NumberTree.ofLiteral text (span.start + bytes)).map Term.array =
      ((NumberTree.ofLiteral text span.start).map Term.array).mapError (·.shift bytes)
    rw [NumberTree.ofLiteral_shift]
    cases NumberTree.ofLiteral text span.start <;> rfl
  | name | integer | real | braces | symbol => exact Term.ofWord_shift text span bytes

theorem Item.ofBraces_shift (offset : Nat) (text : List Char) :
    Item.ofBraces (offset + bytes) text = (Item.ofBraces offset text).map (·.shift bytes) := by
  induction text generalizing offset with
  | nil => rfl
  | cons c text ih =>
    rw [Item.ofBraces, Item.ofBraces, Span.point_shift, Nat.add_right_comm, ih, List.map_cons]
    split <;> rfl

theorem Item.ofToken_shift (token : Token) :
    Item.ofToken (token.shift bytes) = (Item.ofToken token).map (·.shift bytes) := by
  obtain ⟨kind, text, span⟩ := token
  cases kind with
  | braces => exact Item.ofBraces_shift span.start text.toList
  | name | arrayLiteral | closeBracket | integer | real | symbol => rfl

theorem readBlocks_shift (blocks : List OpenBlock) (done : List Term) (items : List Item) :
    readBlocks (blocks.map (·.shift bytes)) done (items.map (·.shift bytes)) =
      (readBlocks blocks done items).mapError (·.shift bytes) := by
  fun_induction readBlocks blocks done items with
  | case1 => rfl
  | case2 => rfl
  | case3 blocks done span rest ih => exact ih
  | case4 => rfl
  | case5 done span rest inner outer ih => exact ih
  | case6 blocks done token rest term hread ih =>
    have hshifted : readAtom (token.shift bytes) = .ok term := by
      rw [readAtom_shift, hread]
      rfl
    rw [List.map_cons, Item.shift, readBlocks, hshifted]
    exact ih
  | case7 blocks done token rest e hread =>
    have hshifted : readAtom (token.shift bytes) = .error (e.shift bytes) := by
      rw [readAtom_shift, hread]
      rfl
    rw [List.map_cons, Item.shift, readBlocks, hshifted]
    rfl

/-- **Where tokens start makes no difference to what they are read as.** -/
theorem ofTokens_shift (tokens : List Token) (bytes : Nat) :
    ofTokens (tokens.map (·.shift bytes)) = (ofTokens tokens).mapError (·.shift bytes) := by
  have hitems : (tokens.map (·.shift bytes)).flatMap Item.ofToken =
      (tokens.flatMap Item.ofToken).map (·.shift bytes) := by
    rw [List.flatMap_map, List.map_flatMap]
    exact congrArg (tokens.flatMap ·) (funext fun token => Item.ofToken_shift token)
  have hread : readBlocks [] [] ((tokens.flatMap Item.ofToken).map (·.shift bytes)) = _ :=
    readBlocks_shift [] [] (tokens.flatMap Item.ofToken)
  rw [ofTokens, ofTokens, hitems, hread]
  cases readBlocks [] [] (tokens.flatMap Item.ofToken) <;> rfl

end Program

end StackScript

import StackScript.Program.Parse
import StackScript.Proofs.NumberTree.Literal

/-!
# Reading on in a program

What a program text is read as is settled by scanning all of it and then pairing braces. Here both
are put together (`readFrom`) and described by what happens at the front of the text: blanks are
passed over, a brace opens or closes a block, and a word or an array literal adds a term. A run of
braces is cut as one token, but it makes no difference to the blocks how many of them stand
together.

`IsRead` says which terms a program can be read as (`isRead_of_parse`).
-/

namespace StackScript

namespace Term

mutual

/-- The number literals in a term, from left to right. -/
def numbers : Term → List Number
  | .number n => [n]
  | .array items => NumberTree.numbersAll items
  | .proc body => numbersAll body
  | _ => []

/-- The number literals in several terms, from left to right. -/
def numbersAll : List Term → List Number
  | [] => []
  | term :: rest => term.numbers ++ numbersAll rest

end

theorem mem_numbersAll {items : List Term} {n : Number} :
    n ∈ numbersAll items ↔ ∃ term ∈ items, n ∈ term.numbers := by
  induction items with
  | nil => simp [numbersAll]
  | cons term rest ih => simp [numbersAll, ih]

end Term

/-- The number literals in a program, at whatever depth, from left to right. -/
def Program.numbers (p : Program) : List Number :=
  Term.numbersAll p.items

/-! ## The meaning of words -/

namespace Term

/-- A term that is written as a word and means the same wherever it stands. -/
structure IsWord (term : Term) (kind : Token.Class) : Prop where
  /-- the text is a word -/
  word : Token.Word kind term.chars
  /-- the word means the term -/
  means : ∀ span, ofWord (String.ofList term.chars) span = .ok term

/-- What is looked up last is written as it is read. -/
theorem chars_ofSymbol (word : String) :
    (ofSymbol word).chars = word.toList ∧ (ofSymbol word).numbers = [] := by
  rw [ofSymbol]
  split
  · next op hop =>
    have hsymbol := List.find?_some hop
    rw [beq_iff_eq] at hsymbol
    exact ⟨congrArg String.toList hsymbol, rfl⟩
  · split
    · exact ⟨rfl, rfl⟩
    · split <;> exact ⟨rfl, rfl⟩

/-- A word that starts no array literal is a number, or a term that is written as it is read. -/
theorem ofWord_cases {word : String} {span : Span} {term : Term}
    (hbracket : word.toList.head? ≠ some '[') (h : ofWord word span = .ok term) :
    (∃ n, term = .number n ∧ n.isNaN = false) ∨
      (term.chars = word.toList ∧ term.numbers = [] ∧ ∀ span, ofWord word span = .ok term) := by
  rw [ofWord] at h
  split at h
  · next n hread =>
    cases h
    exact .inl ⟨n, rfl, Number.isNaN_of_read hread⟩
  · cases h
  · next hread =>
    right
    simp only [ofWord, hread]
    split at h
    · next htrue =>
      cases h
      exact ⟨by rw [htrue]; rfl, rfl, fun _ => if_pos htrue⟩
    · next htrue =>
      split at h
      · next hfalse =>
        cases h
        exact ⟨by rw [hfalse]; rfl, rfl, fun _ => (if_neg htrue).trans (if_pos hfalse)⟩
      · next hfalse =>
        cases h
        obtain ⟨hchars, hnumbers⟩ := chars_ofSymbol word
        exact ⟨hchars, hnumbers, fun _ =>
          (if_neg htrue).trans ((if_neg hfalse).trans (if_neg hbracket))⟩

/-- The terms that a program can be read as. -/
inductive IsRead : Term → Prop where
  /-- a word, which means what it says -/
  | word {term : Term} {kind : Token.Class} (h : term.IsWord kind) (hnumbers : term.numbers = []) :
    IsRead term
  /-- a number literal -/
  | number {n : Number} (h : n.isNaN = false) : IsRead (.number n)
  /-- an array literal -/
  | array {items : List NumberTree} (h : NumberTree.NoNaN items) : IsRead (.array items)
  /-- a block of terms that can be read -/
  | proc {body : List Term} (h : ∀ term ∈ body, IsRead term) : IsRead (.proc body)

/-- No term that can be read has a NaN in it. -/
theorem IsRead.isNaN {term : Term} (h : term.IsRead) : ∀ n ∈ term.numbers, n.isNaN = false := by
  induction h with
  | word _ hnumbers =>
    rw [hnumbers]
    intro n hn
    cases hn
  | number h =>
    intro n hn
    obtain rfl := List.mem_singleton.mp hn
    exact h
  | array h => exact h
  | proc _ ih =>
    intro n hn
    obtain ⟨term, hterm, hn⟩ := mem_numbersAll.mp hn
    exact ih term hterm n hn

end Term

/-! ## Tokens as terms -/

namespace Program

/-- A token that is no brace stands for a term that can be read, if it is a word of its class
whenever it is a word. -/
theorem isRead_of_readAtom {token : Token} {term : Term}
    (hword : token.kind.isWord = true → Token.Word token.kind token.text.toList)
    (hbraces : token.kind ≠ .braces) (h : readAtom token = .ok term) : term.IsRead := by
  rw [readAtom.eq_def] at h
  split at h
  · cases h
  · rcases hitems : NumberTree.ofLiteral token.text token.span.start with e | items <;>
      rw [hitems] at h <;> cases h
    exact .array (NumberTree.noNaN_of_ofLiteral hitems)
  · next hclose harray =>
    -- neither a bracket nor a literal nor a run of braces: a word, which starts with no bracket
    have hkind : token.kind.isWord = true := by
      rcases hkind : token.kind <;> first | rfl | exact absurd hkind (by assumption)
    replace hword := hword hkind
    have hbracket : token.text.toList.head? ≠ some '[' := by
      intro hhead
      rcases htext : token.text.toList with _ | ⟨c, more⟩ <;> rw [htext] at hhead hword
      · cases hhead
      · exact hword.first.2.2 (Option.some.inj hhead)
    rcases Term.ofWord_cases hbracket h with ⟨n, rfl, hnan⟩ | ⟨hchars, hnumbers, hmeans⟩
    · exact .number hnan
    · have htext : String.ofList term.chars = token.text := by
        rw [hchars, String.ofList_toList]
      exact .word ⟨hchars ▸ hword, htext ▸ hmeans⟩ hnumbers

/-- The blocks of a program can be read if its other tokens can. -/
theorem isRead_of_readBlocks {blocks : List OpenBlock} {done terms : List Term} {items : List Item}
    (h : readBlocks blocks done items = .ok terms)
    (hitems : ∀ token, .atom token ∈ items → ∀ term, readAtom token = .ok term → term.IsRead)
    (hblocks : ∀ block ∈ blocks, ∀ term ∈ block.before, term.IsRead)
    (hdone : ∀ term ∈ done, term.IsRead) : ∀ term ∈ terms, term.IsRead := by
  fun_induction readBlocks blocks done items with
  | case1 done =>
    cases h
    exact fun term hterm => hdone term (List.mem_reverse.mp hterm)
  | case2 => cases h
  | case3 blocks done span rest ih =>
    refine ih h (fun token htoken => hitems token (List.mem_cons_of_mem _ htoken)) ?_ (by simp)
    intro block hblock
    rcases List.mem_cons.mp hblock with rfl | hblock
    · exact hdone
    · exact hblocks block hblock
  | case4 => cases h
  | case5 done span rest inner outer ih =>
    refine ih h (fun token htoken => hitems token (List.mem_cons_of_mem _ htoken))
      (fun block hblock => hblocks block (List.mem_cons_of_mem _ hblock)) ?_
    intro term hterm
    rcases List.mem_cons.mp hterm with rfl | hterm
    · exact .proc fun term hterm => hdone term (List.mem_reverse.mp hterm)
    · exact hblocks inner (List.mem_cons_self ..) term hterm
  | case6 blocks done token rest term hread ih =>
    refine ih h (fun token htoken => hitems token (List.mem_cons_of_mem _ htoken)) hblocks ?_
    intro other hother
    rcases List.mem_cons.mp hother with rfl | hother
    · exact hitems token (List.mem_cons_self ..) other hread
    · exact hdone other hother
  | case7 => cases h

/-- Tokens other than braces are passed on as they are. -/
theorem mem_of_atom_mem {tokens : List Token} {token : Token}
    (h : .atom token ∈ tokens.flatMap Item.ofToken) :
    token ∈ tokens ∧ token.kind ≠ .braces := by
  have hbraces (offset : Nat) (text : List Char) : .atom token ∉ Item.ofBraces offset text := by
    induction text generalizing offset with
    | nil => exact List.not_mem_nil
    | cons c text ih =>
      intro hmem
      rcases List.mem_cons.mp hmem with heq | hmem
      · split at heq <;> cases heq
      · exact ih _ hmem
  obtain ⟨other, hother, hmem⟩ := List.mem_flatMap.mp h
  rw [Item.ofToken.eq_def] at hmem
  split at hmem
  · exact absurd hmem (hbraces _ _)
  · next hkind =>
    cases List.mem_singleton.mp hmem
    exact ⟨hother, hkind⟩

/-- **Every program that can be read consists of terms that can be read.** -/
theorem isRead_of_parse {source : String} {p : Program} (h : parse source = .ok p) :
    ∀ term ∈ p.items, term.IsRead := by
  rw [parse] at h
  rcases hscan : Token.scan source with e | tokens <;> rw [hscan] at h
  · cases h
  · rcases hread : readBlocks [] [] (tokens.flatMap Item.ofToken) with e | terms
    all_goals
      dsimp only at h
      rw [ofTokens, hread] at h
      cases h
    refine isRead_of_readBlocks hread (fun token htoken term => ?_) (by simp) (by simp)
    obtain ⟨hmem, hbraces⟩ := mem_of_atom_mem htoken
    exact isRead_of_readAtom (Token.word_of_scanFrom hscan token hmem) hbraces

/-! ## What happens at the front of a text -/

/-- Reads on in the text that follows, with the given blocks open and terms read. -/
def readFrom (blocks : List OpenBlock) (done : List Term) (offset : Nat) (text : List Char) :
    Except ParseError (List Term) :=
  match Token.scanFrom offset text with
  | .ok tokens => readBlocks blocks done (tokens.flatMap Item.ofToken)
  | .error e => .error e

theorem parse_eq (source : String) :
    parse source = (readFrom [] [] 0 source.toList).map Program.mk := by
  rw [parse, readFrom, Token.scan]
  rcases Token.scanFrom 0 source.toList with e | tokens <;> rfl

section Front

variable {blocks : List OpenBlock} {done : List Term} {offset : Nat} {rest : List Char}

theorem readFrom_nil : readFrom [] done offset [] = .ok done.reverse := by
  rw [readFrom, Token.scanFrom_nil]
  rfl

theorem readFrom_blank {c : Char} (h : Text.isBlank c = true) :
    readFrom blocks done offset (c :: rest) =
      readFrom blocks done (offset + c.utf8Size) rest := by
  rw [readFrom, readFrom, Token.scanFrom_blank h]

/-- A token other than a brace adds the term that it stands for. -/
theorem readFrom_atom {token : Token} {term : Term} {text : List Char} {next : Nat}
    (hscan : Token.scanFrom offset (text ++ rest) = (Token.scanFrom next rest).map (token :: ·))
    (hitem : Item.ofToken token = [.atom token]) (hread : readAtom token = .ok term) :
    readFrom blocks done offset (text ++ rest) = readFrom blocks (term :: done) next rest := by
  rw [readFrom, readFrom, hscan]
  rcases Token.scanFrom next rest with e | tokens
  · rfl
  · change readBlocks blocks done (Item.ofToken token ++ tokens.flatMap Item.ofToken) = _
    rw [hitem, List.singleton_append, readBlocks, hread]

/-- A word adds the term that it means. -/
theorem readFrom_word {term : Term} {kind : Token.Class} (h : term.IsWord kind)
    (hrest : Token.EndsWord rest) :
    readFrom blocks done offset (term.chars ++ rest) =
      readFrom blocks (term :: done) (offset + Text.byteLength term.chars) rest := by
  have hkind := h.word.isWord
  have hmeans := h.means ⟨offset, offset + Text.byteLength term.chars⟩
  refine readFrom_atom (Token.scanFrom_word h.word hrest) ?_ ?_
  · cases kind <;> first | rfl | cases hkind
  · cases kind <;> first | exact hmeans | cases hkind

/-- An array literal adds an array. -/
theorem readFrom_array {items : List NumberTree}
    (h : ∀ n ∈ NumberTree.numbersAll items, n.IsFinite) :
    readFrom blocks done offset ((Term.array items).chars ++ rest) =
      readFrom blocks (.array items :: done)
        (offset + Text.byteLength (Term.array items).chars) rest := by
  refine readFrom_atom (Token.scanFrom_arrayLiteral (NumberTree.capture_literal h rest)) rfl ?_
  change (NumberTree.ofLiteral (String.ofList (NumberTree.chars (.node items))) offset).map _ = _
  rw [NumberTree.ofLiteral_spaced h]
  rfl

/-- A brace is one item, however many braces follow it. -/
theorem readFrom_brace {c : Char} (h : Token.isBrace c = true) :
    readFrom blocks done offset (c :: rest) =
      match Token.scanFrom (offset + 1) rest with
      | .ok tokens =>
        readBlocks blocks done (Item.ofBraces offset [c] ++ tokens.flatMap Item.ofToken)
      | .error e => .error e := by
  have hsize : c.utf8Size = 1 := by
    rcases Bool.or_eq_true_iff.mp h with hopen | hclose
    · obtain rfl := beq_iff_eq.mp hopen
      rfl
    · obtain rfl := beq_iff_eq.mp hclose
      rfl
  obtain ⟨run, rest, rfl, hrun, hrest⟩ : ∃ run after, rest = run ++ after ∧
      (∀ d ∈ run, Token.isBrace d = true) ∧
      ∀ d, after.head? = some d → Token.isBrace d = false := by
    refine ⟨rest.takeWhile Token.isBrace, rest.dropWhile Token.isBrace,
      List.takeWhile_append_dropWhile.symm, fun d hd => List.mem_takeWhile_imp hd, fun d hd => ?_⟩
    have hnot := List.head?_dropWhile_not Token.isBrace rest
    rw [hd] at hnot
    exact hnot
  have hall : ∀ d ∈ c :: run, Token.isBrace d = true := by
    intro d hd
    rcases List.mem_cons.mp hd with rfl | hd
    · exact h
    · exact hrun d hd
  have hitems (offset : Nat) (text : List Char) (tokens : List Token) :
      (Token.whole .braces offset text :: tokens).flatMap Item.ofToken =
        Item.ofBraces offset text ++ tokens.flatMap Item.ofToken := by
    change Item.ofBraces offset (String.ofList text).toList ++ tokens.flatMap Item.ofToken = _
    rw [String.toList_ofList]
  rw [readFrom, ← List.cons_append, Token.scanFrom_braces hall hrest, Text.byteLength_cons, hsize]
  -- the brace alone is a run, or the braces after it are a run that is cut by itself
  cases run with
  | nil =>
    rw [Text.byteLength_nil, List.nil_append]
    rcases Token.scanFrom (offset + 1) rest with e | tokens
    · rfl
    · exact congrArg (readBlocks blocks done) (hitems offset [c] tokens)
  | cons d run =>
    rw [Token.scanFrom_braces hrun hrest, ← Nat.add_assoc]
    rcases Token.scanFrom (offset + 1 + Text.byteLength (d :: run)) rest with e | tokens
    · rfl
    · refine congrArg (readBlocks blocks done) ?_
      rw [hitems, hitems, Item.ofBraces, hsize]
      rfl

/-- An opening brace opens a block. -/
theorem readFrom_opening :
    ∃ span, readFrom blocks done offset ('{' :: rest) =
      readFrom (⟨span, done⟩ :: blocks) [] (offset + 1) rest := by
  refine ⟨.point offset, ?_⟩
  rw [readFrom_brace (by decide), readFrom]
  rcases Token.scanFrom (offset + 1) rest with e | tokens <;> rfl

/-- A closing brace closes the innermost block. -/
theorem readFrom_closing {block : OpenBlock} :
    readFrom (block :: blocks) done offset ('}' :: rest) =
      readFrom blocks (.proc done.reverse :: block.before) (offset + 1) rest := by
  rw [readFrom_brace (by decide), readFrom]
  rcases Token.scanFrom (offset + 1) rest with e | tokens <;> rfl

end Front

end Program

end StackScript

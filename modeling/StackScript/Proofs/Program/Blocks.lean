import StackScript.Program.Parse
import StackScript.Proofs.Nesting

/-!
# The grammar of blocks

What a token sequence is read as is said here without reading it. A program written out flat is a
sequence of braces and of terms that are no blocks (`Term.piecesAll`); an item of the sequence is
read as one such piece (`Item.Reads`). The items are read as a program exactly if that program,
written out, has for its pieces what the items are read as, one by one, and there is such a program
exactly if the braces are paired and every other item can be read.

The braces are paired if no beginning of the sequence closes more blocks than it opens, and the
whole closes as many as it opens (`IsPaired`). If the sequence is no program, the error is that of
the first item that offends, and if no item does, that of the last brace that stays open (`Fails`).
-/

namespace StackScript

/-! ## Programs written out -/

/-- A piece of a program that is written out flat: a brace, or a term that is no block. -/
inductive Piece where
  /-- the brace that opens a block -/
  | opening
  /-- the brace that closes a block -/
  | closing
  /-- a term that is no block -/
  | term (t : Term)

namespace Term

mutual

/-- The term written out: a block as its terms between braces. -/
def pieces : Term → List Piece
  | .proc body => .opening :: piecesAll body ++ [.closing]
  | term => [.term term]

/-- Several terms written out, one after the other. -/
def piecesAll : List Term → List Piece
  | [] => []
  | term :: rest => term.pieces ++ piecesAll rest

end

theorem piecesAll_append (before after : List Term) :
    piecesAll (before ++ after) = piecesAll before ++ piecesAll after := by
  induction before with
  | nil => rfl
  | cons term before ih => simp [piecesAll, ih]

/-- A word is a term that is no block. -/
theorem pieces_of_ofWord {word : String} {span : Span} {term : Term}
    (h : ofWord word span = .ok term) : term.pieces = [.term term] := by
  rw [ofWord] at h
  split at h
  · cases h
    rfl
  · cases h
  · split at h
    · cases h
      rfl
    · split at h
      · cases h
        rfl
      · split at h
        · rcases hitems : NumberTree.ofLiteral word span.start with e | items <;>
            rw [hitems] at h <;> cases h
          rfl
        · cases h
          rw [ofSymbol]
          split
          · rfl
          · split
            · rfl
            · split <;> rfl

end Term

namespace Program

/-! ## Items -/

namespace Item

/-- What an item of a program is read as. -/
inductive Reads : Item → Piece → Prop where
  /-- an opening brace is one -/
  | opening {span : Span} : Reads (.opening span) .opening
  /-- a closing brace is one -/
  | closing {span : Span} : Reads (.closing span) .closing
  /-- an array literal is read by the grammar of array literals -/
  | array {token : Token} {items : List NumberTree} (hkind : token.kind = .arrayLiteral)
    (h : NumberTree.ofLiteral token.text token.span.start = .ok items) :
    Reads (.atom token) (.term (.array items))
  /-- any other token means what it means as a word -/
  | word {token : Token} {term : Term} (hclose : token.kind ≠ .closeBracket)
    (harray : token.kind ≠ .arrayLiteral) (h : Term.ofWord token.text token.span = .ok term) :
    Reads (.atom token) (.term term)

/-- Whether the item is a brace that opens a block. -/
def isOpening : Item → Bool
  | .opening _ => true
  | _ => false

/-- Whether the item is a brace that closes a block. -/
def isClosing : Item → Bool
  | .closing _ => true
  | _ => false

/-- Where the item stands. -/
def span : Item → Span
  | .opening span | .closing span => span
  | .atom token => token.span

end Item

/-! ## Paired braces -/

/-- The braces of a program as what opens and closes. -/
def bracing : Bracketing Item where
  opens := Item.isOpening
  closes := Item.isClosing
  exclusive {item} h := by
    cases item with
    | opening | atom => rfl
    | closing => cases h

/-- The braces are paired. No beginning closes more blocks than it opens, so every closing brace has
one to close; and the whole closes as many as it opens, so none stays open. -/
abbrev IsPaired (items : List Item) : Prop :=
  bracing.IsPaired items

/-! ## Offences -/

/-- An item offends, after the items that stand before it: it closes a block where none is open, or
it cannot be read. -/
inductive Offends (before : List Item) : Item → ParseError → Prop where
  /-- a brace closes a block, and as many are closed as are open -/
  | strayBrace {span : Span} (h : bracing.closings before = bracing.openings before) :
    Offends before (.closing span) ⟨.strayBrace, span⟩
  /-- a bracket closes an array outside any array literal -/
  | strayBracket {token : Token} (h : token.kind = .closeBracket) :
    Offends before (.atom token) ⟨.strayBracket, token.span⟩
  /-- an array literal is none -/
  | array {token : Token} {e : ParseError} (hkind : token.kind = .arrayLiteral)
    (h : NumberTree.ofLiteral token.text token.span.start = .error e) :
    Offends before (.atom token) e
  /-- a word has no meaning -/
  | word {token : Token} {e : ParseError} (hclose : token.kind ≠ .closeBracket)
    (harray : token.kind ≠ .arrayLiteral) (h : Term.ofWord token.text token.span = .error e) :
    Offends before (.atom token) e

/-- Why items are no program. -/
inductive Fails (items : List Item) : ParseError → Prop where
  /-- an item offends, and none before it does -/
  | offence {before after : List Item} {item : Item} {e : ParseError}
    (hitems : items = before ++ item :: after) (hfirst : Blameless Offends before)
    (h : Offends before item e) : Fails items e
  /-- no item offends, but a brace stays open, and the braces after it are paired -/
  | leftOpen {before after : List Item} {span : Span} (hnone : Blameless Offends items)
    (hitems : items = before ++ .opening span :: after) (hafter : IsPaired after) :
    Fails items ⟨.openBlock, span⟩

/-! ## Tokens other than braces -/

section Atom

variable {token : Token}

theorem readAtom_closeBracket (h : token.kind = .closeBracket) :
    readAtom token = .error ⟨.strayBracket, token.span⟩ := by
  rw [readAtom, h]

theorem readAtom_arrayLiteral (h : token.kind = .arrayLiteral) :
    readAtom token = (NumberTree.ofLiteral token.text token.span.start).map .array := by
  rw [readAtom, h]

theorem readAtom_word (hclose : token.kind ≠ .closeBracket) (harray : token.kind ≠ .arrayLiteral) :
    readAtom token = Term.ofWord token.text token.span := by
  rw [readAtom.eq_def]
  split
  · next hkind => exact absurd hkind hclose
  · next hkind => exact absurd hkind harray
  · rfl

/-- A token other than a brace is read as a term that is no block. -/
theorem readAtom_eq_ok_iff {term : Term} :
    readAtom token = .ok term ↔ Item.Reads (.atom token) (.term term) := by
  refine ⟨?_, ?_⟩
  · intro h
    by_cases hclose : token.kind = .closeBracket
    · rw [readAtom_closeBracket hclose] at h
      cases h
    by_cases harray : token.kind = .arrayLiteral
    · rw [readAtom_arrayLiteral harray] at h
      rcases hitems : NumberTree.ofLiteral token.text token.span.start with e | items <;>
        rw [hitems] at h <;> cases h
      exact .array harray hitems
    · rw [readAtom_word hclose harray] at h
      exact .word hclose harray h
  · intro h
    cases h with
    | array hkind hitems =>
      rw [readAtom_arrayLiteral hkind, hitems]
      rfl
    | word hclose harray hword => rw [readAtom_word hclose harray, hword]

/-- A token other than a brace that cannot be read offends, wherever it stands. -/
theorem readAtom_eq_error_iff (before : List Item) {e : ParseError} :
    readAtom token = .error e ↔ Offends before (.atom token) e := by
  refine ⟨?_, ?_⟩
  · intro h
    by_cases hclose : token.kind = .closeBracket
    · rw [readAtom_closeBracket hclose] at h
      cases h
      exact .strayBracket hclose
    by_cases harray : token.kind = .arrayLiteral
    · rw [readAtom_arrayLiteral harray] at h
      rcases hitems : NumberTree.ofLiteral token.text token.span.start with e' | items <;>
        rw [hitems] at h <;> cases h
      exact .array harray hitems
    · rw [readAtom_word hclose harray] at h
      exact .word hclose harray h
  · intro h
    cases h with
    | strayBracket hkind => exact readAtom_closeBracket hkind
    | array hkind hitems =>
      rw [readAtom_arrayLiteral hkind, hitems]
      rfl
    | word hclose harray hword => rw [readAtom_word hclose harray, hword]

theorem pieces_of_reads {term : Term} (h : Item.Reads (.atom token) (.term term)) :
    term.pieces = [.term term] := by
  cases h with
  | array _ _ => rfl
  | word _ _ hword => exact Term.pieces_of_ofWord hword

end Atom

/-! ## What reading comes to -/

section Reading

variable {blocks : List OpenBlock} {done terms : List Term} {before rest : List Item}

/-- What a result says about the items that were read: if there is one, the braces are paired and
no item offends, and if there is none, the items fail as the error says. -/
def Verdict {α : Type} (items : List Item) : Except ParseError α → Prop
  | .ok _ => IsPaired items ∧ Blameless Offends items
  | .error e => Fails items e

/-- **When reading succeeds and how it fails**, with any beginning of the items already read. -/
theorem verdict_readBlocks (hopen : bracing.Leaves Item.span before (blocks.map OpenBlock.span))
    (hnone : Blameless Offends before) :
    Verdict (before ++ rest) (readBlocks blocks done rest) := by
  fun_induction readBlocks blocks done rest generalizing before with
  | case1 done =>
    cases hopen with
    | none hpaired =>
      rw [List.append_nil]
      exact ⟨hpaired, hnone⟩
  | case2 done inner outer =>
    obtain ⟨earlier, item, after, rfl, hitem, hspan, -, hafter⟩ := hopen.exists_of_cons
    cases item with
    | opening span =>
      rw [List.append_nil, ← hspan]
      exact .leftOpen hnone rfl hafter
    | closing | atom => cases hitem
  | case3 blocks done span rest ih =>
    have hoffends : ∀ e, ¬ Offends before (.opening span) e := by
      rintro e ⟨⟩
    have hnext := ih (hopen.opening rfl) (hnone.concat hoffends)
    simpa using hnext
  | case4 done span rest =>
    have hcount := hopen.openings_eq
    exact .offence rfl hnone (.strayBrace hcount.symm)
  | case5 done span rest inner outer ih =>
    have hcount := hopen.openings_eq
    rw [List.map_cons, List.length_cons] at hcount
    have hoffends : ∀ e, ¬ Offends before (.closing span) e := by
      intro e h
      cases h with
      | strayBrace hequal => omega
    have hnext := ih (hopen.closing rfl) (hnone.concat hoffends)
    simpa using hnext
  | case6 blocks done token rest term hread ih =>
    have hoffends : ∀ e, ¬ Offends before (.atom token) e := by
      intro e h
      rw [← readAtom_eq_error_iff, hread] at h
      cases h
    have hnext := ih (hopen.append (.single rfl rfl)) (hnone.concat hoffends)
    simpa using hnext
  | case7 blocks done token rest e hread =>
    exact .offence rfl hnone ((readAtom_eq_error_iff before).mp hread)

/-- The blocks that are open and the terms read so far, written out. -/
def piecesOpen : List OpenBlock → List Term → List Piece
  | [], done => Term.piecesAll done.reverse
  | inner :: outer, done =>
    piecesOpen outer inner.before ++ .opening :: Term.piecesAll done.reverse

theorem piecesOpen_cons (blocks : List OpenBlock) (done : List Term) (term : Term) :
    piecesOpen blocks (term :: done) = piecesOpen blocks done ++ term.pieces := by
  cases blocks <;> simp [piecesOpen, Term.piecesAll_append, Term.piecesAll]

/-- One more item is read as one more piece. -/
theorem reads_concat {pieces : List Piece} {item : Item} {piece : Piece}
    (h : List.Forall₂ Item.Reads before pieces) (hitem : item.Reads piece) :
    List.Forall₂ Item.Reads (before ++ [item]) (pieces ++ [piece]) :=
  List.rel_append h (.cons hitem .nil)

/-- What is read, written out, is what the items are read as, one by one. -/
theorem reads_of_readBlocks (hbefore : List.Forall₂ Item.Reads before (piecesOpen blocks done))
    (h : readBlocks blocks done rest = .ok terms) :
    List.Forall₂ Item.Reads (before ++ rest) (Term.piecesAll terms) := by
  fun_induction readBlocks blocks done rest generalizing before with
  | case1 done =>
    cases h
    rwa [List.append_nil]
  | case2 => cases h
  | case3 blocks done span rest ih =>
    rw [List.append_cons]
    exact ih (reads_concat hbefore .opening) h
  | case4 => cases h
  | case5 done span rest inner outer ih =>
    have hpieces : piecesOpen outer (.proc done.reverse :: inner.before) =
        piecesOpen (inner :: outer) done ++ [.closing] := by
      simp [piecesOpen_cons, piecesOpen, Term.pieces]
    rw [List.append_cons]
    refine ih ?_ h
    rw [hpieces]
    exact reads_concat hbefore .closing
  | case6 blocks done token rest term hread ih =>
    have hreads := readAtom_eq_ok_iff.mp hread
    rw [List.append_cons]
    refine ih ?_ h
    rw [piecesOpen_cons, pieces_of_reads hreads]
    exact reads_concat hbefore hreads
  | case7 => cases h

/-- A term that is no block is read from the item that is read as it. -/
theorem readBlocks_term {items : List Item} {term : Term}
    (h : List.Forall₂ Item.Reads items [.term term]) :
    readBlocks blocks done (items ++ rest) = readBlocks blocks (term :: done) rest := by
  obtain ⟨item, none, hitem, hnone, rfl⟩ := List.forall₂_cons_right_iff.mp h
  obtain rfl := List.forall₂_nil_right_iff.mp hnone
  cases item with
  | opening | closing => cases hitem
  | atom token =>
    rw [List.singleton_append, readBlocks, readAtom_eq_ok_iff.mpr hitem]

mutual

/-- A term is read from any items that are read as its pieces. -/
theorem readBlocks_pieces (blocks : List OpenBlock) (done : List Term) (rest : List Item) :
    (term : Term) → {items : List Item} → List.Forall₂ Item.Reads items term.pieces →
      readBlocks blocks done (items ++ rest) = readBlocks blocks (term :: done) rest
  | .proc body, items, h => by
    obtain ⟨first, inside, last, rfl, hfirst, hbody, hlast⟩ := exists_enclosed_of_forall₂ h
    cases hfirst with
    | @opening span =>
      cases hlast with
      | @closing last =>
        have hread := readBlocks_piecesAll (⟨span, done⟩ :: blocks) [] (.closing last :: rest)
          body hbody
        rw [List.append_assoc, List.cons_append, readBlocks, List.singleton_append, hread,
          List.append_nil, readBlocks, List.reverse_reverse]
  | .number _, _, h | .bool _, _, h | .name _, _, h | .array _, _, h | .operator _, _, h
  | .call _, _, h | .unknown _, _, h => readBlocks_term h

/-- Terms are read from any items that are read as their pieces. -/
theorem readBlocks_piecesAll (blocks : List OpenBlock) (done : List Term) (rest : List Item) :
    (terms : List Term) → {items : List Item} →
      List.Forall₂ Item.Reads items (Term.piecesAll terms) →
      readBlocks blocks done (items ++ rest) = readBlocks blocks (terms.reverse ++ done) rest
  | [], _, h => by
    obtain rfl := List.forall₂_nil_right_iff.mp h
    rfl
  | term :: terms, _, h => by
    obtain ⟨first, others, rfl, hfirst, hothers⟩ := exists_append_of_forall₂ h
    rw [List.append_assoc, readBlocks_pieces blocks done _ term hfirst,
      readBlocks_piecesAll blocks _ rest terms hothers, List.reverse_cons, List.append_assoc,
      List.singleton_append]

end

end Reading

/-! ## What fails cannot be read -/

/-- What fails has braces that are not paired, or an item that cannot be read. -/
theorem Fails.not_isPaired {items : List Item} {e : ParseError} (h : Fails items e)
    (hread : ∀ token, .atom token ∈ items → ∃ term, Item.Reads (.atom token) (.term term)) :
    ¬ IsPaired items := by
  intro hpaired
  cases h with
  | @offence before after item _ hitems _ hoffends =>
    subst hitems
    cases item with
    | opening => cases hoffends
    | closing =>
      cases hoffends with
      | strayBrace hcount => exact Bool.noConfusion (hpaired.not_closes hcount)
    | atom token =>
      obtain ⟨term, hterm⟩ := hread token (List.mem_append_right _ List.mem_cons_self)
      rw [← readAtom_eq_error_iff, readAtom_eq_ok_iff.mpr hterm] at hoffends
      cases hoffends
  | leftOpen _ hitems hafter =>
    subst hitems
    exact Bool.noConfusion (hpaired.not_opens hafter)

/-- The same item offends, at the same place, for one reason only. -/
theorem Offends.unique {before : List Item} {item : Item} {e e' : ParseError}
    (h : Offends before item e) (h' : Offends before item e') : e = e' := by
  cases item with
  | opening => cases h
  | closing =>
    cases h with
    | strayBrace =>
      cases h' with
      | strayBrace => rfl
  | atom token =>
    rw [← readAtom_eq_error_iff] at h h'
    exact Except.error.inj (h.symm.trans h')

/-- Items fail for one reason only. -/
theorem Fails.unique {items : List Item} {e e' : ParseError} (h : Fails items e)
    (h' : Fails items e') : e = e' := by
  cases h with
  | @offence before after item _ hitems hfirst hoffends =>
    cases h' with
    | offence hitems' hfirst' hoffends' =>
      obtain ⟨rfl, rfl⟩ := place_unique_of_first (hitems.symm.trans hitems') hfirst hoffends
        hfirst' hoffends'
      exact hoffends.unique hoffends'
    | leftOpen hnone _ _ => exact absurd hoffends (hnone before item after _ hitems)
  | leftOpen hnone hitems hafter =>
    cases h' with
    | @offence before' after' item' _ hitems' _ hoffends' =>
      exact absurd hoffends' (hnone before' item' after' _ hitems')
    | leftOpen _ hitems' hafter' =>
      obtain ⟨-, hspan⟩ := Bracketing.place_unique_of_open (hitems.symm.trans hitems') rfl
        hafter rfl hafter'
      cases hspan
      rfl

/-! ## The grammar -/

/-- A token that does not offend can be read. -/
theorem reads_of_blameless {items : List Item} (h : Blameless Offends items) :
    ∀ token, .atom token ∈ items →
      token.kind ≠ .closeBracket ∧ ∃ term, Item.Reads (.atom token) (.term term) := by
  intro token hmem
  obtain ⟨before, after, hitems⟩ := List.append_of_mem hmem
  rcases hread : readAtom token with e | term
  · exact absurd ((readAtom_eq_error_iff before).mp hread) (h before _ after e hitems)
  · refine ⟨?_, term, readAtom_eq_ok_iff.mp hread⟩
    intro hclose
    rw [readAtom_closeBracket hclose] at hread
    cases hread

section Tokens

variable {tokens : List Token}

/-- When a token sequence is read as a program and how it fails. -/
theorem verdict_ofTokens (tokens : List Token) :
    Verdict (tokens.flatMap Item.ofToken) (ofTokens tokens) := by
  have hnone : Blameless Offends [] := Blameless.nil
  have hverdict : Verdict ([] ++ tokens.flatMap Item.ofToken)
      (readBlocks [] [] (tokens.flatMap Item.ofToken)) :=
    verdict_readBlocks (.none .nil) hnone
  rw [ofTokens]
  rcases hread : readBlocks [] [] (tokens.flatMap Item.ofToken) with e | terms <;>
    rw [hread] at hverdict <;> exact hverdict

/-- A token sequence is read as the program that has for its pieces what the items are read as. -/
theorem ofTokens_eq_ok_iff {p : Program} :
    ofTokens tokens = .ok p ↔
      List.Forall₂ Item.Reads (tokens.flatMap Item.ofToken) (Term.piecesAll p.items) := by
  refine ⟨?_, ?_⟩
  · intro h
    rcases hread : readBlocks [] [] (tokens.flatMap Item.ofToken) with e | terms <;>
      rw [ofTokens, hread] at h <;> cases h
    have hnil : List.Forall₂ Item.Reads [] (piecesOpen [] []) := .nil
    exact reads_of_readBlocks hnil hread
  · intro h
    have hread := readBlocks_piecesAll [] [] [] p.items h
    rw [List.append_nil, List.append_nil, readBlocks, List.reverse_reverse] at hread
    rw [ofTokens, hread]
    rfl

end Tokens

/-- **The grammar of blocks.** A token sequence, its runs of braces taken apart, is read as a
program exactly if its braces are paired, no closing bracket stands outside an array literal, and
every other token can be read. It is read as the program that, written out, has for its pieces what
the items are read as, one by one, and as no other. And if it is no program, the error is that of
the first item that offends, or, if none does, that of the innermost brace that stays open. -/
theorem ofTokens_grammar (tokens : List Token) :
    let items := tokens.flatMap Item.ofToken
    ((∃ p, ofTokens tokens = .ok p) ↔
      IsPaired items ∧ ∀ token, .atom token ∈ items →
        token.kind ≠ .closeBracket ∧ ∃ term, Item.Reads (.atom token) (.term term)) ∧
    (∀ p, ofTokens tokens = .ok p ↔ List.Forall₂ Item.Reads items (Term.piecesAll p.items)) ∧
    ∀ e, ofTokens tokens = .error e ↔ Fails items e := by
  intro items
  have hverdict := verdict_ofTokens tokens
  refine ⟨⟨?_, ?_⟩, fun p => ofTokens_eq_ok_iff, fun e => ⟨?_, ?_⟩⟩
  · rintro ⟨p, hp⟩
    rw [hp] at hverdict
    obtain ⟨hpaired, hnone⟩ := hverdict
    exact ⟨hpaired, reads_of_blameless hnone⟩
  · rintro ⟨hpaired, hread⟩
    rcases hresult : ofTokens tokens with e | p
    · rw [hresult] at hverdict
      exact absurd hpaired (hverdict.not_isPaired fun token hmem => (hread token hmem).2)
    · exact ⟨p, rfl⟩
  · intro he
    rw [he] at hverdict
    exact hverdict
  · intro hfails
    rcases hresult : ofTokens tokens with e' | p <;> rw [hresult] at hverdict
    · rw [hfails.unique hverdict]
    · obtain ⟨hpaired, hnone⟩ := hverdict
      have hreads := reads_of_blameless hnone
      exact absurd hpaired (hfails.not_isPaired fun token hmem => (hreads token hmem).2)

/-- Two blocks are opened in one run, and the one that is closed is the inner one. -/
example : ofTokens [⟨.braces, "\x7b\x7b", ⟨0, 2⟩⟩, ⟨.braces, "\x7d", ⟨2, 3⟩⟩] =
    .error ⟨.openBlock, ⟨0, 1⟩⟩ :=
  rfl

end Program

end StackScript

import StackScript.Proofs.NumberTree.Group
import StackScript.Proofs.Program.Shift

/-!
# The grammar of array literals, without reading

What any text is read as, as an array literal, is said here without reading it, for a text that was
captured from a program and for any other. The tokens are read as a tree exactly if they are one
group of matching brackets whose other tokens are numbers, and the tree is the one that, written
out, has for its pieces what the tokens are read as, one by one.

If the tokens are no such group, the error is that of the first token that offends: it stands
outside the group, in front of it or behind it, or it stands inside and is no number (`Offends`). If
none does, the tokens have run out, and the error is that of the last bracket that stays open, or
there are no tokens at all (`Fails`).
-/

namespace StackScript

namespace ArrayToken

variable {tokens before after : List ArrayToken} {token : ArrayToken} {e e' : ParseError}
  {span : Span} {spans : List Span}

/-! ## Paired brackets -/

/-- In a group the brackets are paired. -/
theorem IsGroup.isPaired (h : IsGroup tokens) : IsPaired tokens := by
  cases h with
  | intro hfirst hinside hlast =>
    exact hinside.enclosed (beq_iff_eq.mpr hfirst) (beq_iff_eq.mpr hlast)

/-- After something that leaves a bracket open, the next token is inside an array. -/
theorem openings_lt_of_leaves (h : bracketing.Leaves ArrayToken.span tokens (span :: spans)) :
    bracketing.closings tokens < bracketing.openings tokens := by
  rw [h.openings_eq, List.length_cons]
  omega

/-! ## Offences -/

/-- A token offends, after the tokens that stand before it: it stands outside the group, or it is
inside and no number. -/
inductive Offends (before : List ArrayToken) : ArrayToken → ParseError → Prop where
  /-- a bracket closes an array where none is open -/
  | strayBracket {token : ArrayToken}
    (houtside : bracketing.closings before = bracketing.openings before)
    (hkind : token.kind = .closing) : Offends before token ⟨.strayBracket, token.span⟩
  /-- something else stands where no array is open, and is not the bracket that opens the group -/
  | outside {token : ArrayToken}
    (houtside : bracketing.closings before = bracketing.openings before)
    (hclose : token.kind ≠ .closing) (hfirst : before = [] → token.kind ≠ .opening) :
    Offends before token ⟨.notANumber token.text, token.span⟩
  /-- an element of an array is no number -/
  | element {token : ArrayToken} {e : ParseError}
    (hinside : bracketing.closings before < bracketing.openings before)
    (h : IsNoNumber token e) : Offends before token e

/-- What is no number is no bracket either. -/
theorem IsNoNumber.kind_ne_opening (h : IsNoNumber token e) : token.kind ≠ .opening := by
  cases h with
  | notANumber hopen _ _ => exact hopen
  | integerTooLarge hkind _ => simp [hkind]

theorem IsNoNumber.kind_ne_closing (h : IsNoNumber token e) : token.kind ≠ .closing := by
  cases h with
  | notANumber _ hclose _ => exact hclose
  | integerTooLarge hkind _ => simp [hkind]

/-- Why tokens that are cut from a text, which starts at an offset, are no array literal. -/
inductive Fails (offset : Nat) (tokens : List ArrayToken) : ParseError → Prop where
  /-- a token offends, and none before it does -/
  | offence {before after : List ArrayToken} {token : ArrayToken} {e : ParseError}
    (htokens : tokens = before ++ token :: after) (hfirst : Blameless Offends before)
    (h : Offends before token e) : Fails offset tokens e
  /-- no token offends, but a bracket stays open, and the brackets after it are paired -/
  | leftOpen {before after : List ArrayToken} {token : ArrayToken}
    (hnone : Blameless Offends tokens) (htokens : tokens = before ++ token :: after)
    (htoken : token.kind = .opening) (hafter : IsPaired after) :
    Fails offset tokens ⟨.openBracket, token.span⟩
  /-- there is no token, and the place of the bracket that is missing is where the text starts -/
  | empty (htokens : tokens = []) : Fails offset tokens ⟨.openBracket, .point offset⟩

/-- A beginning of a group in which no token offends fails for the innermost bracket that it leaves
open. -/
theorem fails_of_leaves {offset : Nat}
    (h : bracketing.Leaves ArrayToken.span tokens (span :: spans))
    (hnone : Blameless Offends tokens) : Fails offset tokens ⟨.openBracket, span⟩ := by
  obtain ⟨before, token, after, rfl, htoken, rfl, -, hafter⟩ := h.exists_of_cons
  exact .leftOpen hnone rfl (beq_iff_eq.mp htoken) hafter

/-- Where one bracket is left open and no token offends, the next to close an array closes the
group: the one that is left open is the first token, for it would offend anywhere else. -/
theorem isGroup_of_leaves (h : bracketing.Leaves ArrayToken.span tokens [span])
    (hnone : Blameless Offends tokens) (htoken : token.kind = .closing) :
    IsGroup (tokens ++ [token]) := by
  obtain ⟨before, first, after, rfl, hopens, -, hbefore, hafter⟩ := h.exists_of_cons
  have hfirst : first.kind = .opening := beq_iff_eq.mp hopens
  have hoffends (hne : before ≠ []) : Offends before first ⟨.notANumber first.text, first.span⟩ :=
    .outside (by simpa using hbefore.openings_eq.symm) (by simp [hfirst])
      fun hnil => absurd hnil hne
  cases before with
  | nil => exact .intro hfirst hafter htoken
  | cons other before => exact absurd (hoffends (List.cons_ne_nil _ _)) (hnone _ _ _ _ rfl)

/-- A token offends, at the same place, for one reason only. -/
theorem Offends.unique (h : Offends before token e) (h' : Offends before token e') : e = e' := by
  cases h with
  | strayBracket houtside hkind =>
    cases h' with
    | strayBracket => rfl
    | outside _ hclose _ => exact absurd hkind hclose
    | element hinside _ => exact absurd houtside (Nat.ne_of_lt hinside)
  | outside houtside hclose _ =>
    cases h' with
    | strayBracket _ hkind => exact absurd hkind hclose
    | outside => rfl
    | element hinside _ => exact absurd houtside (Nat.ne_of_lt hinside)
  | element hinside hnone =>
    cases h' with
    | strayBracket houtside _ | outside houtside _ _ =>
      exact absurd houtside (Nat.ne_of_lt hinside)
    | element _ hnone' =>
      have hread := NumberTree.readNumber_of_isNoNumber hnone
      exact Except.error.inj (hread.symm.trans (NumberTree.readNumber_of_isNoNumber hnone'))

/-- Tokens fail for one reason only. -/
theorem Fails.unique {offset : Nat} (h : Fails offset tokens e) (h' : Fails offset tokens e') :
    e = e' := by
  cases h with
  | @offence before after token _ htokens hfirst hoffends =>
    cases h' with
    | offence htokens' hfirst' hoffends' =>
      obtain ⟨rfl, rfl⟩ := place_unique_of_first (htokens.symm.trans htokens') hfirst hoffends
        hfirst' hoffends'
      exact hoffends.unique hoffends'
    | leftOpen hnone => exact absurd hoffends (hnone before token after _ htokens)
    | empty hempty => simp [hempty] at htokens
  | leftOpen hnone htokens htoken hafter =>
    cases h' with
    | @offence before' after' token' _ htokens' _ hoffends' =>
      exact absurd hoffends' (hnone before' token' after' _ htokens')
    | leftOpen _ htokens' htoken' hafter' =>
      obtain ⟨-, rfl⟩ := Bracketing.place_unique_of_open (htokens.symm.trans htokens')
        (beq_iff_eq.mpr htoken) hafter (beq_iff_eq.mpr htoken') hafter'
      rfl
    | empty hempty => simp [hempty] at htokens
  | empty hempty =>
    cases h' with
    | offence htokens' => simp [hempty] at htokens'
    | leftOpen _ htokens' => simp [hempty] at htokens'
    | empty => rfl

/-- One group in which no token offends does not fail. -/
theorem Fails.not_isGroup {offset : Nat} (h : Fails offset tokens e)
    (hnone : Blameless Offends tokens) : ¬ IsGroup tokens := by
  intro hgroup
  cases h with
  | @offence before after token _ htokens _ hoffends =>
    exact hnone before token after _ htokens hoffends
  | leftOpen _ htokens htoken hafter =>
    have hpaired := hgroup.isPaired
    rw [htokens] at hpaired
    have hopens := hpaired.not_opens hafter
    exact beq_eq_false_iff_ne.mp hopens htoken
  | empty hempty =>
    rw [hempty] at hgroup
    cases hgroup

end ArrayToken

/-! ## What reading comes to -/

namespace NumberTree

open ArrayToken (bracketing Reads IsNoNumber IsGroup Offends Fails fails_of_leaves
  isGroup_of_leaves openings_lt_of_leaves)

variable {outer : List OpenArray} {inner : OpenArray} {tokens before rest : List ArrayToken}
  {token : ArrayToken} {items : List NumberTree} {e : ParseError} {offset : Nat}

/-- What a result says about the tokens that were read: if there is one, they are one group in which
no token offends, and if there is none, they fail as the error says. -/
def Verdict {α : Type} (offset : Nat) (tokens : List ArrayToken) : Except ParseError α → Prop
  | .ok _ => IsGroup tokens ∧ Blameless Offends tokens
  | .error e => Fails offset tokens e

/-- What stands where no array is open offends with the error that it is answered with. -/
theorem offends_unexpected (houtside : bracketing.closings before = bracketing.openings before)
    (hfirst : before = [] → token.kind ≠ .opening) : Offends before token (unexpected token) := by
  rw [unexpected]
  split
  · next hclose => exact .strayBracket houtside hclose
  · next hclose => exact .outside houtside hclose hfirst

/-- Inside an array a bracket does not offend. -/
theorem not_offends_of_bracket (hinside : bracketing.closings before < bracketing.openings before)
    (hkind : token.kind = .opening ∨ token.kind = .closing) (e : ParseError) :
    ¬ Offends before token e := by
  intro h
  cases h with
  | strayBracket houtside _ | outside houtside _ _ => exact Nat.ne_of_lt hinside houtside
  | element _ hnone => exact hkind.elim hnone.kind_ne_opening hnone.kind_ne_closing

/-- Inside an array a number does not offend. -/
theorem not_offends_of_readNumber {n : Number}
    (hinside : bracketing.closings before < bracketing.openings before)
    (hread : readNumber token = .ok n) (e : ParseError) : ¬ Offends before token e := by
  intro h
  cases h with
  | strayBracket houtside _ | outside houtside _ _ => exact Nat.ne_of_lt hinside houtside
  | element _ hnone =>
    rw [readNumber_of_isNoNumber hnone] at hread
    cases hread

/-- **When reading succeeds and how it fails**, with any beginning of the tokens already read. -/
theorem verdict_readInside
    (hopen : bracketing.Leaves ArrayToken.span before ((inner :: outer).map OpenArray.span))
    (hnone : Blameless Offends before) :
    Verdict offset (before ++ rest) (readInside outer inner rest) := by
  fun_induction readInside outer inner rest generalizing before with
  | case1 outer inner =>
    rw [List.append_nil]
    exact fails_of_leaves hopen hnone
  | case2 outer inner token rest hopening ih =>
    have hnext := ih (hopen.opening (beq_iff_eq.mpr hopening))
      (hnone.concat (not_offends_of_bracket (openings_lt_of_leaves hopen) (.inl hopening)))
    simpa using hnext
  | case3 inner token rest around outer hclosing ih =>
    have hnext := ih (hopen.closing (beq_iff_eq.mpr hclosing))
      (hnone.concat (not_offends_of_bracket (openings_lt_of_leaves hopen) (.inr hclosing)))
    simpa using hnext
  | case4 inner token hclosing =>
    exact ⟨isGroup_of_leaves hopen hnone hclosing,
      hnone.concat (not_offends_of_bracket (openings_lt_of_leaves hopen) (.inr hclosing))⟩
  | case5 inner token extra tail hclosing =>
    have hgroup : IsGroup (before ++ [token]) := isGroup_of_leaves hopen hnone hclosing
    have hclean : Blameless Offends (before ++ [token]) :=
      hnone.concat (not_offends_of_bracket (openings_lt_of_leaves hopen) (.inr hclosing))
    rw [List.append_cons]
    refine .offence rfl hclean (offends_unexpected hgroup.isPaired.complete fun hempty => ?_)
    simp at hempty
  | case6 outer inner token rest n hread _ _ _ _ ih =>
    have hkind := kind_of_readNumber hread
    have hword : ArrayToken.IsPaired [token] :=
      .single (by simp [bracketing, hkind]) (by simp [bracketing, hkind])
    have hnext := ih (hopen.append hword)
      (hnone.concat (not_offends_of_readNumber (openings_lt_of_leaves hopen) hread))
    simpa using hnext
  | case7 outer inner token rest e hread hopening hinner hlast hextra =>
    have hclosing := kind_ne_closing hinner hlast hextra
    have hnumber := isNoNumber_of_readNumber hopening hclosing hread
    exact .offence rfl hnone (.element (openings_lt_of_leaves hopen) hnumber)

/-- When a literal is read and how it fails. -/
theorem verdict_ofLiteral (literal : String) (offset : Nat) :
    Verdict offset (ArrayToken.scan literal offset) (ofLiteral literal offset) := by
  rw [ofLiteral]
  rcases ArrayToken.scan literal offset with _ | ⟨first, rest⟩
  · exact .empty rfl
  have hnone : Blameless Offends ([] : List ArrayToken) := .nil
  by_cases hfirst : first.kind = .opening
  · have hopen : bracketing.Leaves ArrayToken.span [first] [first.span] :=
      .opened (.none .nil) (beq_iff_eq.mpr hfirst) .nil
    have hclean : Blameless Offends [first] := by
      refine hnone.concat fun e h => ?_
      cases h with
      | strayBracket _ hkind => simp [hfirst] at hkind
      | outside _ _ hnot => exact hnot rfl hfirst
      | element hinside _ => exact Nat.lt_irrefl 0 hinside
    have hverdict : Verdict offset ([first] ++ rest) (readInside [] ⟨first.span, []⟩ rest) :=
      verdict_readInside hopen hclean
    simp only [hfirst]
    exact hverdict
  · have hunexpected : Offends [] first (unexpected first) :=
      offends_unexpected rfl fun _ => hfirst
    have hfails : Fails offset ([] ++ first :: rest) (unexpected first) :=
      .offence rfl hnone hunexpected
    cases hkind : first.kind with
    | opening => exact absurd hkind hfirst
    | closing | number | other =>
      simp only [hkind]
      exact hfails

/-! ## Reading what is written out -/

mutual

/-- A tree is read from any tokens that are read as its pieces. -/
theorem readInside_pieces (outer : List OpenArray) (inner : OpenArray) (rest : List ArrayToken) :
    (tree : NumberTree) → {tokens : List ArrayToken} → List.Forall₂ Reads tokens tree.pieces →
      readInside outer inner (tokens ++ rest) =
        readInside outer { inner with read := tree :: inner.read } rest
  | .leaf n, _, h => by
    obtain ⟨token, none, htoken, hnone, rfl⟩ := List.forall₂_cons_right_iff.mp h
    obtain rfl := List.forall₂_nil_right_iff.mp hnone
    have hread := readNumber_of_reads htoken
    exact readInside_number (kind_of_readNumber hread) hread
  | .node items, _, h => by
    obtain ⟨first, inside, last, rfl, hfirst, hinside, hlast⟩ := exists_enclosed_of_forall₂ h
    cases hfirst with
    | opening hfirst =>
      cases hlast with
      | closing hlast =>
        rw [List.append_assoc, List.cons_append, readInside_opening hfirst,
          List.singleton_append, readInside_piecesAll _ _ _ items hinside,
          readInside_closing hlast, List.append_nil, List.reverse_reverse]

/-- Trees are read from any tokens that are read as their pieces. -/
theorem readInside_piecesAll (outer : List OpenArray) (inner : OpenArray)
    (rest : List ArrayToken) :
    (items : List NumberTree) → {tokens : List ArrayToken} →
      List.Forall₂ Reads tokens (piecesAll items) →
      readInside outer inner (tokens ++ rest) =
        readInside outer { inner with read := items.reverse ++ inner.read } rest
  | [], _, h => by
    obtain rfl := List.forall₂_nil_right_iff.mp h
    rfl
  | tree :: items, _, h => by
    obtain ⟨first, others, rfl, hfirst, hothers⟩ := exists_append_of_forall₂ h
    rw [List.append_assoc, readInside_pieces outer inner _ tree hfirst,
      readInside_piecesAll outer _ rest items hothers, List.reverse_cons, List.append_assoc,
      List.singleton_append]

end

/-- A literal is read as the tree that has for its pieces what the tokens are read as. -/
theorem ofLiteral_eq_ok_iff {literal : String} :
    ofLiteral literal offset = .ok items ↔
      List.Forall₂ Reads (ArrayToken.scan literal offset) (NumberTree.node items).pieces := by
  refine ⟨reads_of_ofLiteral, fun h => ?_⟩
  obtain ⟨first, inside, last, hscan, hfirst, hinside, hlast⟩ := exists_enclosed_of_forall₂ h
  cases hfirst with
  | opening hfirst =>
    cases hlast with
    | closing hlast =>
      rw [ofLiteral, hscan, List.cons_append]
      simp only [hfirst]
      rw [readInside_piecesAll _ _ _ items hinside, readInside_last hlast, List.append_nil,
        List.reverse_reverse]

/-- **The grammar of array literals.** Any text, from any offset on, is read as an array literal
exactly if its tokens are one group of matching brackets and every other token is a number. It is
read as the tree that, written out, has for its pieces what the tokens are read as, one by one, and
as no other. If it is no array literal, the error is that of the first token that offends, or, if
none does, that of the innermost bracket that stays open, or of the place where the text starts if
there is no token. And a text that starts further to the right is read as the same tree or with the
same error, so much further to the right. -/
theorem ofLiteral_grammar (literal : String) (offset : Nat) :
    let tokens := ArrayToken.scan literal offset
    ((∃ items, ofLiteral literal offset = .ok items) ↔
      IsGroup tokens ∧ ∀ token ∈ tokens, token.kind ≠ .opening → token.kind ≠ .closing →
        ∃ n, Reads token (.number n)) ∧
    (∀ items, ofLiteral literal offset = .ok items ↔
      List.Forall₂ Reads tokens (NumberTree.node items).pieces) ∧
    (∀ e, ofLiteral literal offset = .error e ↔ Fails offset tokens e) ∧
    ∀ bytes, ofLiteral literal (offset + bytes) =
      (ofLiteral literal offset).mapError (·.shift bytes) := by
  intro tokens
  have hverdict := verdict_ofLiteral literal offset
  refine ⟨⟨?_, ?_⟩, fun items => ofLiteral_eq_ok_iff, fun e => ⟨?_, ?_⟩, ofLiteral_shift _ _⟩
  · rintro ⟨items, hitems⟩
    rw [hitems] at hverdict
    refine ⟨hverdict.1, fun token htoken hopen hclose => ?_⟩
    obtain ⟨piece, -, hpiece⟩ := exists_mem_of_forall₂ (reads_of_ofLiteral hitems).flip htoken
    cases hpiece with
    | opening hkind => exact absurd hkind hopen
    | closing hkind => exact absurd hkind hclose
    | number hkind hread => exact ⟨_, .number hkind hread⟩
  · rintro ⟨hgroup, hnumbers⟩
    rcases hresult : ofLiteral literal offset with e | items
    · obtain ⟨token, htoken, hnone⟩ := exists_of_isGroup hgroup hresult
      have herror := readNumber_of_isNoNumber hnone
      obtain ⟨n, hn⟩ := hnumbers token htoken hnone.kind_ne_opening hnone.kind_ne_closing
      rw [readNumber_of_reads hn] at herror
      cases herror
    · exact ⟨items, rfl⟩
  · intro he
    rw [he] at hverdict
    exact hverdict
  · intro hfails
    rcases hresult : ofLiteral literal offset with e' | items <;> rw [hresult] at hverdict
    · rw [hfails.unique hverdict]
    · exact absurd hverdict.1 (hfails.not_isGroup hverdict.2)

end NumberTree

end StackScript

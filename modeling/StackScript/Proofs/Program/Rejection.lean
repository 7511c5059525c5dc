import StackScript.Proofs.NumberTree.Group
import StackScript.Proofs.Program.Blocks
import StackScript.Proofs.Program.Reading
import StackScript.Proofs.Token.Cutting

/-!
# Programs that cannot be read

A program text that is no program has a malformed array literal, up to which it is cut into tokens,
or it is cut to its end and one of the tokens is to blame (`blamed_of_parse`): a brace, a bracket
outside array literals, a word of an array literal, or an integer that is too large
(`Token.Blamed`).

Brackets inside array literals are never to blame. What is captured as a literal is cut into a group
of matching brackets and read as such, so an error at a bracket is an error outside every literal
(`brackets_agree`).
-/

namespace StackScript

/-! ## Tokens that are to blame -/

/-- The token is one that a program cannot be read with, or not where it stands, for this error. -/
inductive Token.Blamed (token : Token) : ParseError → Prop where
  /-- a brace closes what is not open -/
  | strayBrace {span : Span} (h : .closing span ∈ Program.Item.ofToken token) :
    Blamed token ⟨.strayBrace, span⟩
  /-- a brace opens what is never closed -/
  | openBlock {span : Span} (h : .opening span ∈ Program.Item.ofToken token) :
    Blamed token ⟨.openBlock, span⟩
  /-- a bracket closes an array outside array literals -/
  | strayBracket (hkind : token.kind = .closeBracket) : Blamed token ⟨.strayBracket, token.span⟩
  /-- a word of an array literal is no number -/
  | element {part : ArrayToken} {e : ParseError} (hkind : token.kind = .arrayLiteral)
    (hpart : part ∈ ArrayToken.scan token.text token.span.start) (h : part.IsNoNumber e) :
    Blamed token e
  /-- an integer outside array literals does not fit in 64 bits -/
  | integerTooLarge (hkind : token.kind ≠ .arrayLiteral)
    (h : Number.read token.text.toList = .overflow) :
    Blamed token ⟨.integerTooLarge token.text, token.span⟩

/-- A word that starts no array literal is an error only if it is an integer that is too large. -/
theorem Term.ofWord_error {word : String} {span : Span} {e : ParseError}
    (hbracket : word.toList.head? ≠ some '[') (h : ofWord word span = .error e) :
    Number.read word.toList = .overflow ∧ e = ⟨.integerTooLarge word, span⟩ := by
  rw [ofWord] at h
  cases hread : Number.read word.toList with
  | value n =>
    rw [hread] at h
    cases h
  | overflow =>
    rw [hread] at h
    cases h
    exact ⟨rfl, rfl⟩
  | other =>
    simp only [hread, if_neg hbracket] at h
    split at h
    · cases h
    · split at h <;> cases h

namespace Program

open Token (Cuts IsLexeme)

/-- An item that offends comes from a token that is to blame. -/
theorem blamed_of_offends {tokens : List Token} {before : List Item} {item : Item} {e : ParseError}
    (htokens : ∀ token ∈ tokens, ∃ after, IsLexeme token.kind token.text.toList after)
    (hitem : item ∈ tokens.flatMap Item.ofToken) (h : Offends before item e) :
    ∃ token ∈ tokens, token.Blamed e := by
  cases h with
  | strayBrace _ =>
    obtain ⟨token, htoken, hmem⟩ := List.mem_flatMap.mp hitem
    exact ⟨token, htoken, .strayBrace hmem⟩
  | strayBracket hkind => exact ⟨_, (mem_of_atom_mem hitem).1, .strayBracket hkind⟩
  | @array token _ hkind h =>
    obtain ⟨htoken, -⟩ := mem_of_atom_mem hitem
    obtain ⟨after, hlexeme⟩ := htokens token htoken
    obtain ⟨part, hpart, hnone⟩ := NumberTree.exists_of_ofLiteral (hkind ▸ hlexeme.accepts) h
    exact ⟨token, htoken, .element hkind hpart hnone⟩
  | @word token _ _ harray h =>
    obtain ⟨htoken, -⟩ := mem_of_atom_mem hitem
    obtain ⟨after, hlexeme⟩ := htokens token htoken
    obtain ⟨hoverflow, rfl⟩ := Term.ofWord_error (fun hopen => harray (hlexeme.literal hopen)) h
    exact ⟨token, htoken, .integerTooLarge harray hoverflow⟩

/-- **Why a text is no program.** It is cut up to a malformed array literal, or it is cut to its end
and a token is to blame. -/
theorem blamed_of_parse {source : String} {e : ParseError} (h : parse source = .error e) :
    ∃ tokens stop rest, Cuts 0 source.toList tokens stop rest ∧
      (Token.Malformed stop rest e ∨
        Token.scan source = .ok tokens ∧ ∃ token ∈ tokens, token.Blamed e) := by
  rw [parse] at h
  rcases hscan : Token.scan source with e' | tokens <;> rw [hscan] at h
  · cases h
    obtain ⟨tokens, stop, rest, hcuts, hmalformed⟩ := Token.scanFrom_eq_error_iff.mp hscan
    exact ⟨tokens, stop, rest, hcuts, .inl hmalformed⟩
  · obtain ⟨stop, hcuts⟩ := Token.scanFrom_eq_ok_iff.mp hscan
    refine ⟨tokens, stop, [], hcuts, .inr ⟨rfl, ?_⟩⟩
    have hverdict := verdict_ofTokens tokens
    dsimp only at h
    rw [h] at hverdict
    cases hverdict with
    | @offence before after item _ hitems _ hoffends =>
      refine blamed_of_offends (fun token htoken => ?_) ?_ hoffends
      · obtain ⟨_, _, hstands⟩ := hcuts.exists_standsIn htoken
        exact ⟨_, hstands.isLexeme⟩
      · rw [hitems]
        exact List.mem_append_right _ List.mem_cons_self
    | @leftOpen before after span _ hitems _ =>
      have hitem : .opening span ∈ tokens.flatMap Item.ofToken := by
        rw [hitems]
        exact List.mem_append_right _ List.mem_cons_self
      obtain ⟨token, htoken, hmem⟩ := List.mem_flatMap.mp hitem
      exact ⟨token, htoken, .openBlock hmem⟩

/-! ## Brackets -/

/-- Whatever stands in a literal, the error is none of a bracket. -/
theorem cause_of_isNoNumber {part : ArrayToken} {e : ParseError} (h : part.IsNoNumber e) :
    e.cause ≠ .openBracket ∧ e.cause ≠ .strayBracket := by
  cases h <;> exact ⟨by rintro ⟨⟩, by rintro ⟨⟩⟩

/-- The bracket that closes an array outside array literals is written as itself. -/
theorem text_of_closeBracket {token : Token} {after : List Char}
    (h : IsLexeme token.kind token.text.toList after) (hkind : token.kind = .closeBracket) :
    token.text = "]" := by
  have haccepts := h.accepts
  rw [hkind] at haccepts
  generalize htext : token.text.toList = text at haccepts
  cases haccepts with
  | word h => cases h
  | closeBracket => rw [← String.ofList_toList (s := token.text), htext]

/-- **The two scanners agree on brackets.** Every array literal that is cut off a program, whether
or not the program can be cut to its end, falls apart into one group of matching brackets. It is
read token by token, with none left out, or it fails at a word that is no number, so no array is
left open in it. And a bracket that closes nothing stands outside every array literal. -/
theorem brackets_agree (source : String) :
    (∀ tokens stop rest, Cuts 0 source.toList tokens stop rest →
      ∀ token ∈ tokens, token.kind = .arrayLiteral →
        let parts := ArrayToken.scan token.text token.span.start
        let read := NumberTree.ofLiteral token.text token.span.start
        ArrayToken.IsGroup parts ∧
          (∀ items, read = .ok items →
            List.Forall₂ ArrayToken.Reads parts (NumberTree.node items).pieces) ∧
          ∀ e, read = .error e → ∃ part ∈ parts, part.IsNoNumber e) ∧
    ∀ e, parse source = .error e → e.cause ≠ .openBracket ∧
      (e.cause = .strayBracket → ∃ tokens, Token.scan source = .ok tokens ∧
        (∃ token ∈ tokens, token.kind = .closeBracket ∧ token.text = "]" ∧ token.span = e.span) ∧
        ∀ token ∈ tokens, token.kind = .arrayLiteral →
          token.span.stop ≤ e.span.start ∨ e.span.stop ≤ token.span.start) := by
  refine ⟨?_, ?_⟩
  · intro tokens stop rest hcuts token htoken hkind
    obtain ⟨_, _, hstands⟩ := hcuts.exists_standsIn htoken
    have haccepts := hstands.isLexeme.accepts
    rw [hkind] at haccepts
    exact ⟨ArrayToken.isGroup_scanFrom haccepts _, fun _ => NumberTree.reads_of_ofLiteral,
      fun _ => NumberTree.exists_of_ofLiteral haccepts⟩
  · intro e h
    obtain ⟨tokens, stop, rest, hcuts, hmalformed | ⟨hscan, token, htoken, hblamed⟩⟩ :=
      blamed_of_parse h
    · cases hmalformed <;> exact ⟨by rintro ⟨⟩, by rintro ⟨⟩⟩
    -- of all that can be to blame only a bracket that is a token of its own is a stray one
    cases hblamed with
    | strayBrace | openBlock | integerTooLarge => exact ⟨by rintro ⟨⟩, by rintro ⟨⟩⟩
    | element _ _ hnone =>
      obtain ⟨hopen, hstray⟩ := cause_of_isNoNumber hnone
      exact ⟨hopen, fun hcause => absurd hcause hstray⟩
    | strayBracket hkind =>
      refine ⟨by rintro ⟨⟩, fun _ => ⟨tokens, hscan, ⟨token, htoken, hkind, ?_, rfl⟩, ?_⟩⟩
      · obtain ⟨_, _, hstands⟩ := hcuts.exists_standsIn htoken
        exact text_of_closeBracket hstands.isLexeme hkind
      · intro literal hliteral hliteralKind
        have hne : literal ≠ token := by
          rintro rfl
          rw [hkind] at hliteralKind
          cases hliteralKind
        exact hcuts.disjoint hliteral htoken hne

/-- A bracket in front of a literal closes nothing, and none of those within the literal is taken
for it, although a word of the literal is no number. -/
theorem brackets_agree_of_stray :
    let source := "] [[.] 2]"
    let bracket : Token := ⟨.closeBracket, "]", ⟨0, 1⟩⟩
    let literal : Token := ⟨.arrayLiteral, "[[.] 2]", ⟨2, 9⟩⟩
    Token.scan source = .ok [bracket, literal] ∧
      ArrayToken.IsGroup (ArrayToken.scan "[[.] 2]" 2) ∧
      parse source = .error ⟨.strayBracket, ⟨0, 1⟩⟩ ∧
      ∃ tokens, Token.scan source = .ok tokens ∧
        ∃ token ∈ tokens, token.kind = .closeBracket ∧ token.span = ⟨0, 1⟩ := by
  intro source bracket literal
  have hscan : Token.scan source = .ok [bracket, literal] := by decide +kernel
  have hparse : parse source = .error ⟨.strayBracket, ⟨0, 1⟩⟩ := by
    rw [parse, hscan]
    rfl
  obtain ⟨hliterals, herrors⟩ := brackets_agree source
  obtain ⟨stop, hcuts⟩ := Token.scanFrom_eq_ok_iff.mp hscan
  obtain ⟨hgroup, -, -⟩ := hliterals _ stop [] hcuts literal (by simp) rfl
  obtain ⟨tokens, htokens, ⟨token, htoken, hkind, -, hspan⟩, -⟩ := (herrors _ hparse).2 rfl
  exact ⟨hscan, hgroup, hparse, tokens, htokens, token, htoken, hkind, hspan⟩

end Program

end StackScript

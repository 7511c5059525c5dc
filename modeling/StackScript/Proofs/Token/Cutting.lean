import StackScript.Proofs.Token.Language
import StackScript.Proofs.Token.Scan

/-!
# What a text is cut into

`Token.Cuts` says what it means that a beginning of a text is cut into tokens, without saying how:
what stands between two tokens is a gap of blanks and comments, and every token is the longest text
at its place that belongs to any class. A text is cut in this way to its end, or up to an array
literal that is malformed (`exists_cuts`), and scanning finds the one or the other
(`scanFrom_cuts`, `scanFrom_malformed`). So scanning is just that (`scan_correct`).
-/

namespace StackScript.Token

/-! ## Gaps -/

/-- The text `gap` consists of blanks and comments, where the text `after` follows it. A comment
ends with its line. -/
inductive Gap : List Char → List Char → Prop where
  /-- nothing at all -/
  | nil (after : List Char) : Gap [] after
  /-- a blank, and what follows it -/
  | blank {c : Char} {gap after : List Char} (h : Text.isBlank c = true) (hrest : Gap gap after) :
    Gap (c :: gap) after
  /-- a comment, and what follows it -/
  | comment {body gap after : List Char} (h : ∀ c ∈ body, c ≠ '\n')
    (hend : ∀ c, (gap ++ after).head? = some c → c = '\n') (hrest : Gap gap after) :
    Gap ('%' :: (body ++ gap)) after

section Gap

variable {gap more after : List Char} {offset : Nat}

theorem Gap.append (h : Gap gap (more ++ after)) (hmore : Gap more after) :
    Gap (gap ++ more) after := by
  generalize hrest : more ++ after = rest at h
  induction h with
  | nil => exact hmore
  | blank hblank _ ih => exact .blank hblank (ih hrest)
  | comment hbody hend _ ih =>
    subst hrest
    rw [List.cons_append, List.append_assoc]
    refine .comment hbody ?_ (ih rfl)
    rwa [List.append_assoc]

/-- What stands on the rest of the line behind `%` is a gap. -/
theorem gap_comment (rest : List Char) :
    Gap ('%' :: rest.takeWhile (· ≠ '\n')) (rest.drop (rest.takeWhile (· ≠ '\n')).length) := by
  rw [← List.append_nil (rest.takeWhile _)]
  refine .comment ?_ ?_ (.nil _)
  · intro c hc
    simpa using List.mem_takeWhile_imp hc
  · intro c hc
    rw [List.append_nil] at hc
    simpa using Text.head?_drop_takeWhile _ _ c hc

/-- A comment is passed over. -/
theorem scanFrom_comment {body rest : List Char} (h : ∀ c ∈ body, c ≠ '\n')
    (hend : ∀ c, rest.head? = some c → c = '\n') :
    scanFrom offset ('%' :: (body ++ rest)) =
      scanFrom (offset + Text.byteLength ('%' :: body)) rest := by
  have hbody : (body ++ rest).takeWhile (· ≠ '\n') = body :=
    Text.takeWhile_append (by simpa using h) (by simpa using hend)
  rw [scanFrom.eq_def]
  dsimp only
  rw [if_neg (by decide), if_pos rfl, hbody, List.drop_left, Text.byteLength_cons, Nat.add_assoc]

/-- **A gap is passed over.** -/
theorem scanFrom_gap (h : Gap gap after) :
    scanFrom offset (gap ++ after) = scanFrom (offset + Text.byteLength gap) after := by
  induction h generalizing offset with
  | nil => rfl
  | blank hblank _ ih =>
    rw [List.cons_append, scanFrom_blank hblank, ih, Text.byteLength_cons, Nat.add_assoc]
  | @comment body gap after hbody hend _ ih =>
    rw [List.cons_append, List.append_assoc, scanFrom_comment hbody hend, ih, Nat.add_assoc,
      ← Text.byteLength_append, List.cons_append]

end Gap

/-! ## Malformed array literals -/

/-- At the front of a text stands an array literal that does not end as it should. -/
inductive Malformed (start : Nat) : List Char → ParseError → Prop where
  /-- it stays open to the end of the text, and the error covers all of it -/
  | unclosed {inside : List Char} (h : StaysOpen 0 inside) :
    Malformed start ('[' :: inside)
      ⟨.arrayNotClosed, ⟨start, start + Text.byteLength ('[' :: inside)⟩⟩
  /-- it stays open up to a character that may not stand in it, and the error covers what stands
  before that character -/
  | character {inside after : List Char} {c : Char} (h : StaysOpen 0 inside) (hc : ¬ MayStand c) :
    Malformed start ('[' :: (inside ++ c :: after))
      ⟨.arrayCharacter c, ⟨start, start + Text.byteLength ('[' :: inside)⟩⟩

theorem malformed?_eq_some_iff {start : Nat} {c : Char} {rest : List Char} {e : ParseError} :
    malformed? start c rest = some e ↔ Malformed start (c :: rest) e := by
  refine ⟨?_, ?_⟩
  · intro h
    rw [malformed?] at h
    split at h
    · next hopen =>
      subst hopen
      have hfinds := finds_capture 0 rest
      rcases hcapture : capture 0 rest with length | ⟨length, d⟩ | _ <;>
        rw [hcapture] at h hfinds <;> cases h
      · cases hfinds with
        | invalid hinside hd =>
          rw [List.take_left]
          exact .character hinside hd
      · cases hfinds with
        | unclosed hinside => exact .unclosed hinside
    · cases h
  · intro h
    cases h with
    | unclosed h => rw [malformed?, if_pos rfl, capture_of_finds (.unclosed h)]
    | character h hc =>
      rw [malformed?, if_pos rfl, capture_of_finds (.invalid h hc)]
      dsimp only
      rw [List.take_left]

/-- A malformed array literal is an error. -/
theorem scanFrom_malformed {start : Nat} {text : List Char} {e : ParseError}
    (h : Malformed start text e) : scanFrom start text = .error e := by
  obtain ⟨rest, rfl⟩ : ∃ rest, text = '[' :: rest := by
    cases h with
    | unclosed => exact ⟨_, rfl⟩
    | character => exact ⟨_, rfl⟩
  rw [scanFrom.eq_def]
  dsimp only
  rw [if_neg (by decide), if_neg (by decide), malformed?_eq_some_iff.mpr h]

/-! ## Cutting -/

/-- The text whose first byte has the offset `offset` starts with the given tokens, and with a gap
before each of them. The text `rest` with the offset `stop` follows the last of them, or a gap
behind it. -/
inductive Cuts : Nat → List Char → List Token → Nat → List Char → Prop where
  /-- no token at all -/
  | gap {offset : Nat} {gap rest : List Char} (h : Gap gap rest) :
    Cuts offset (gap ++ rest) [] (offset + Text.byteLength gap) rest
  /-- a token, and what follows it -/
  | token {offset stop : Nat} {gap text after rest : List Char} {kind : Class}
    {tokens : List Token} (hgap : Gap gap (text ++ after)) (htext : IsLexeme kind text after)
    (hafter : Cuts (offset + Text.byteLength gap + Text.byteLength text) after tokens stop rest) :
    Cuts offset (gap ++ (text ++ after))
      (whole kind (offset + Text.byteLength gap) text :: tokens) stop rest

section Cuts

variable {offset stop : Nat} {gap text rest : List Char} {kind : Class} {token : Token}
  {tokens : List Token} {e : ParseError}

/-- A gap in front is part of the first gap. -/
theorem Cuts.gap_append (h : Cuts (offset + Text.byteLength gap) text tokens stop rest)
    (hgap : Gap gap text) :
    Cuts offset (gap ++ text) tokens stop rest := by
  generalize hstart : offset + Text.byteLength gap = start at h
  cases h with
  | @gap _ more _ hmore =>
    have hall : Cuts offset (gap ++ more ++ rest) [] _ rest := .gap (hgap.append hmore)
    rwa [List.append_assoc, Text.byteLength_append, ← Nat.add_assoc, hstart] at hall
  | @token _ _ more text after _ kind tokens hmore htext hafter =>
    have hoffset : start + Text.byteLength more = offset + Text.byteLength (gap ++ more) := by
      rw [Text.byteLength_append, ← hstart, Nat.add_assoc]
    rw [hoffset] at hafter ⊢
    rw [← List.append_assoc]
    exact .token (hgap.append hmore) htext hafter

theorem IsLexeme.ne_nil {after : List Char} (h : IsLexeme kind text after) : text ≠ [] := by
  rintro rfl
  cases h.accepts with
  | word h => cases h

/-- **What a text is cut into is what scanning begins with.** -/
theorem scanFrom_cuts (h : Cuts offset text tokens stop rest) :
    scanFrom offset text = (scanFrom stop rest).map (tokens ++ ·) := by
  induction h with
  | gap hgap =>
    rw [scanFrom_gap hgap]
    cases scanFrom _ _ <;> rfl
  | @token offset stop gap text after rest kind tokens hgap htext hafter ih =>
    obtain ⟨c, more, rfl⟩ := List.exists_cons_of_ne_nil htext.ne_nil
    obtain ⟨hblank, hcomment⟩ := htext.first c rfl
    rw [scanFrom_gap hgap, scanFrom_longest hblank hcomment (malformed?_of_isLexeme htext)
      (longest_of_isLexeme htext), ih]
    cases scanFrom stop rest with
    | error e => rfl
    | ok tokens => rfl

/-- **Every text is cut to its end, or up to a malformed array literal.** No other character stops
it, since every one that is not blank is a symbol if nothing else. -/
theorem exists_cuts (offset : Nat) (text : List Char) :
    ∃ tokens stop rest, Cuts offset text tokens stop rest ∧
      (rest = [] ∨ ∃ e, Malformed stop rest e) := by
  fun_induction scanFrom offset text with
  | case1 offset => exact ⟨[], offset, [], .gap (.nil []), .inl rfl⟩
  | case2 offset c rest hblank ih =>
    obtain ⟨tokens, stop, after, hcuts, hstop⟩ := ih
    exact ⟨tokens, stop, after, hcuts.gap_append (.blank hblank (.nil rest)), hstop⟩
  | case3 offset rest comment hblank ih =>
    obtain ⟨tokens, stop, after, hcuts, hstop⟩ := ih
    rw [Nat.add_assoc, ← Text.byteLength_cons] at hcuts
    have hall := hcuts.gap_append (gap_comment rest)
    rw [List.cons_append, Text.takeWhile_append_drop] at hall
    exact ⟨tokens, stop, after, hall, hstop⟩
  | case4 offset c rest hblank hcomment e hformed =>
    refine ⟨[], offset, c :: rest, .gap (.nil _), .inr ⟨e, ?_⟩⟩
    exact malformed?_eq_some_iff.mp hformed
  | case5 offset c rest hblank hcomment hformed kind n hlongest token ih =>
    obtain ⟨tokens, stop, after, hcuts, hstop⟩ := ih
    have htext := isLexeme_of_longest (Bool.eq_false_iff.mpr hblank) hcomment hformed hlongest
    have hall := Cuts.token (.nil _) htext hcuts
    rw [List.nil_append, List.cons_append, List.take_append_drop] at hall
    exact ⟨_, stop, after, hall, hstop⟩

/-- Scanning succeeds with the tokens that the text is cut into to its end, and with no others. -/
theorem scanFrom_eq_ok_iff :
    scanFrom offset text = .ok tokens ↔ ∃ stop, Cuts offset text tokens stop [] := by
  refine ⟨?_, ?_⟩
  · intro h
    obtain ⟨found, stop, rest, hcuts, hstop⟩ := exists_cuts offset text
    rw [scanFrom_cuts hcuts] at h
    rcases hstop with rfl | ⟨e, hmalformed⟩
    · rw [scanFrom_nil, Except.map, List.append_nil] at h
      cases h
      exact ⟨stop, hcuts⟩
    · rw [scanFrom_malformed hmalformed] at h
      cases h
  · rintro ⟨stop, hcuts⟩
    rw [scanFrom_cuts hcuts, scanFrom_nil, Except.map, List.append_nil]

/-- Scanning fails with the error of the malformed array literal up to which the text is cut. -/
theorem scanFrom_eq_error_iff :
    scanFrom offset text = .error e ↔
      ∃ tokens stop rest, Cuts offset text tokens stop rest ∧ Malformed stop rest e := by
  refine ⟨?_, ?_⟩
  · intro h
    obtain ⟨found, stop, rest, hcuts, hstop⟩ := exists_cuts offset text
    rw [scanFrom_cuts hcuts] at h
    rcases hstop with rfl | ⟨e', hmalformed⟩
    · rw [scanFrom_nil] at h
      cases h
    · rw [scanFrom_malformed hmalformed] at h
      cases h
      exact ⟨found, stop, rest, hcuts, hmalformed⟩
  · rintro ⟨found, stop, rest, hcuts, hmalformed⟩
    rw [scanFrom_cuts hcuts, scanFrom_malformed hmalformed, Except.map]

/-! ## Places -/

/-- The offsets count the bytes of the text. -/
theorem Cuts.stop_eq (h : Cuts offset text tokens stop rest) :
    stop + Text.byteLength rest = offset + Text.byteLength text := by
  induction h with
  | gap => rw [Text.byteLength_append, Nat.add_assoc]
  | token _ _ _ ih =>
    rw [ih, Text.byteLength_append, Text.byteLength_append, Nat.add_assoc, Nat.add_assoc]

/-- Every token is the longest text at its place, and its span is that place. -/
theorem Cuts.whole_of_mem (h : Cuts offset text tokens stop rest) (hmem : token ∈ tokens) :
    ∃ before more after, text = before ++ (more ++ after) ∧
      token = whole token.kind (offset + Text.byteLength before) more ∧
      IsLexeme token.kind more after := by
  induction h with
  | gap => cases hmem
  | @token offset stop gap text after rest kind tokens hgap htext hafter ih =>
    rcases List.mem_cons.mp hmem with rfl | hmem
    · exact ⟨gap, text, after, rfl, rfl, htext⟩
    · obtain ⟨before, more, behind, rfl, htoken, hmore⟩ := ih hmem
      refine ⟨gap ++ (text ++ before), more, behind, by simp, ?_, hmore⟩
      rwa [Text.byteLength_append, Text.byteLength_append, ← Nat.add_assoc, ← Nat.add_assoc]

/-- A token ends where the next one starts, or before. -/
theorem Cuts.pairwise (h : Cuts offset text tokens stop rest) :
    tokens.Pairwise fun earlier later => earlier.span.stop ≤ later.span.start := by
  induction h with
  | gap => exact .nil
  | token _ _ hafter ih =>
    refine .cons ?_ ih
    intro later hlater
    obtain ⟨before, more, behind, -, htoken, -⟩ := hafter.whole_of_mem hlater
    rw [htoken]
    exact Nat.le_add_right ..

/-- Of two tokens one ends where the other starts, or before. -/
theorem Cuts.disjoint {other : Token} (h : Cuts offset text tokens stop rest)
    (hmem : token ∈ tokens) (hother : other ∈ tokens) (hne : token ≠ other) :
    token.span.stop ≤ other.span.start ∨ other.span.stop ≤ token.span.start := by
  have hsymm : Std.Symm fun token other : Token =>
      token.span.stop ≤ other.span.start ∨ other.span.stop ≤ token.span.start :=
    ⟨fun _ _ => Or.symm⟩
  have hpairwise : tokens.Pairwise fun token other =>
      token.span.stop ≤ other.span.start ∨ other.span.stop ≤ token.span.start :=
    h.pairwise.imp Or.inl
  exact hpairwise.forall hmem hother hne

end Cuts

/-! ## Scanning a program -/

/-- The token stands in the program between the texts `before` and `after`: its span is that place
there, its text is what stands there, and it is the longest text there that belongs to any class. -/
structure StandsIn (source : String) (token : Token) (before after : String) : Prop where
  /-- the texts are the program -/
  source_eq : source = before ++ token.text ++ after
  /-- the span is the place between the texts -/
  span_eq : token.span = ⟨before.utf8ByteSize, (before ++ token.text).utf8ByteSize⟩
  /-- at least one byte stands there -/
  start_lt_stop : token.span.start < token.span.stop
  /-- no other text is the token there -/
  isLexeme : IsLexeme token.kind token.text.toList after.toList

theorem Cuts.exists_standsIn {source : String} {tokens : List Token} {token : Token} {stop : Nat}
    {rest : List Char} (h : Cuts 0 source.toList tokens stop rest) (hmem : token ∈ tokens) :
    ∃ before after, StandsIn source token before after := by
  obtain ⟨before, more, after, hsource, htoken, hmore⟩ := h.whole_of_mem hmem
  refine ⟨String.ofList before, String.ofList after, ?_⟩
  have htext : token.text = String.ofList more := congrArg Token.text htoken
  have hspan : token.span =
      ⟨Text.byteLength before, Text.byteLength before + Text.byteLength more⟩ := by
    rw [congrArg Token.span htoken, whole, Nat.zero_add]
  refine ⟨?_, ?_, ?_, ?_⟩
  · rw [htext]
    exact Text.eq_append_of_toList hsource
  · rw [hspan, htext]
    exact Text.span_eq_of_pieces before more
  · rw [hspan]
    exact Nat.lt_add_of_pos_right (Text.byteLength_pos hmore.ne_nil)
  · rwa [htext, String.toList_ofList, String.toList_ofList]

/-- **What scanning a program gives.** If it succeeds, the tokens stand in the program one behind
the other, each of them the longest text at its place that belongs to any class, and with nothing
but blanks and comments before, between and behind them. It fails only at a malformed array
literal, up to which the program is cut in the same way. One or the other is so for every program:
no character of it is unexpected. -/
theorem scan_correct (source : String) :
    (∀ tokens, scan source = .ok tokens ↔
      Cuts 0 source.toList tokens source.utf8ByteSize []) ∧
    (∀ tokens, scan source = .ok tokens →
      (tokens.Pairwise fun earlier later => earlier.span.stop ≤ later.span.start) ∧
      ∀ token ∈ tokens, ∃ before after, StandsIn source token before after) ∧
    (∀ e, scan source = .error e ↔
      ∃ tokens stop rest, Cuts 0 source.toList tokens stop rest ∧ Malformed stop rest e) ∧
    ∃ tokens stop rest, Cuts 0 source.toList tokens stop rest ∧
      (rest = [] ∨ ∃ e, Malformed stop rest e) := by
  have hok (tokens : List Token) :
      scan source = .ok tokens ↔ Cuts 0 source.toList tokens source.utf8ByteSize [] := by
    rw [scan, scanFrom_eq_ok_iff]
    refine ⟨?_, fun h => ⟨_, h⟩⟩
    rintro ⟨stop, hcuts⟩
    have hstop := hcuts.stop_eq
    rw [Text.byteLength_nil, Text.byteLength_toList, Nat.zero_add, Nat.add_zero] at hstop
    rwa [hstop] at hcuts
  refine ⟨hok, ?_, fun e => scanFrom_eq_error_iff, exists_cuts 0 source.toList⟩
  intro tokens h
  have hcuts := (hok tokens).mp h
  exact ⟨hcuts.pairwise, fun token hmem => hcuts.exists_standsIn hmem⟩

/-- A point without a digit behind it belongs to no number, and of a comment nothing is left. -/
theorem scan_correct_of_point :
    let source := "1.x% 2\n-"
    let tokens : List Token := [⟨.integer, "1", ⟨0, 1⟩⟩, ⟨.symbol, ".", ⟨1, 2⟩⟩,
      ⟨.name, "x", ⟨2, 3⟩⟩, ⟨.symbol, "-", ⟨7, 8⟩⟩]
    scan source = .ok tokens ∧ Cuts 0 source.toList tokens source.utf8ByteSize [] ∧
      ∀ token ∈ tokens, ∃ before after, StandsIn source token before after := by
  intro source tokens
  have hscan : scan source = .ok tokens := by decide +kernel
  obtain ⟨hcuts, hplaces, -, -⟩ := scan_correct source
  exact ⟨hscan, (hcuts tokens).mp hscan, (hplaces tokens hscan).2⟩

end StackScript.Token

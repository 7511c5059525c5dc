import StackScript.Proofs.Token.Cutting

/-!
# Texts line by line

No token and no comment of one line goes on in the next. Of the tokens only array literals have
blanks in them (`Class.Accepts.eq_arrayLiteral_of_isBlank`), and one that is closed does not go on
either (`IsLexeme.append_blank`). So a text is cut up to the end of a line as if nothing followed
(`scanFrom_append_line`), and blanks behind its last token change nothing
(`scanFrom_append_blanks`).
-/

namespace StackScript.Token

/-! ## Tokens have no blanks in them -/

section Blank

variable {kind other : Class} {c : Char} {text more after : List Char}

theorem isBlank_of_isIdentifierRest (h : Name.isIdentifierRest c = true) :
    Text.isBlank c = false := by
  rcases Bool.or_eq_true_iff.mp h with halphanum | hunderscore
  · exact Text.isBlank_of_isAlphanum halphanum
  · obtain rfl := beq_iff_eq.mp hunderscore
    decide

theorem isBlank_of_startsInteger {first : Char} {digits : List Char}
    (h : StartsInteger first digits) (hmem : c ∈ first :: digits) : Text.isBlank c = false := by
  rcases List.mem_cons.mp hmem with rfl | hmem
  · rcases h.2 with hdigit | ⟨rfl, -⟩
    · exact Text.isBlank_of_isDigit hdigit
    · decide
  · exact Text.isBlank_of_isDigit (h.1 c hmem)

theorem Word.isBlank_of_mem (h : Word kind text) (hmem : c ∈ text) : Text.isBlank c = false := by
  cases h with
  | bare hletter hrest =>
    rcases List.mem_cons.mp hmem with rfl | hmem
    · exact Text.isBlank_of_isAlphanum (Text.isAlphanum_of_isAlpha hletter)
    · exact isBlank_of_isIdentifierRest (hrest c hmem)
  | literal hletter hrest =>
    rcases List.mem_cons.mp hmem with rfl | hmem
    · decide
    rcases List.mem_cons.mp hmem with rfl | hmem
    · exact Text.isBlank_of_isAlphanum (Text.isAlphanum_of_isAlpha hletter)
    · exact isBlank_of_isIdentifierRest (hrest c hmem)
  | integer h => exact isBlank_of_startsInteger h hmem
  | real h hfraction =>
    rw [← List.cons_append] at hmem
    rcases List.mem_append.mp hmem with hmem | hmem
    · exact isBlank_of_startsInteger h hmem
    rcases List.mem_cons.mp hmem with rfl | hmem
    · decide
    · exact Text.isBlank_of_isDigit ((Number.isDigits_iff.mp hfraction).2 c hmem)
  | symbol hblank =>
    obtain rfl := List.mem_singleton.mp hmem
    exact hblank

/-- Only array literals have blanks in them. -/
theorem Class.Accepts.eq_arrayLiteral_of_isBlank (h : kind.Accepts text) (hmem : c ∈ text)
    (hblank : Text.isBlank c = true) : kind = .arrayLiteral := by
  cases h with
  | word h =>
    rw [h.isBlank_of_mem hmem] at hblank
    cases hblank
  | arrayLiteral => rfl
  | closeBracket =>
    obtain rfl := List.mem_singleton.mp hmem
    cases hblank
  | braces h =>
    rcases Bool.or_eq_true_iff.mp (h c hmem) with hopen | hclose
    · obtain rfl := beq_iff_eq.mp hopen
      cases hblank
    · obtain rfl := beq_iff_eq.mp hclose
      cases hblank
  | symbol h =>
    obtain rfl := List.mem_singleton.mp hmem
    rw [h] at hblank
    cases hblank

/-- What belongs to array literals is captured, whatever follows it. -/
theorem capture_of_accepts (h : Class.arrayLiteral.Accepts text) (after : List Char) :
    ∃ inside, text = '[' :: inside ∧ capture 0 (inside ++ after) = .closed inside.length := by
  cases h with
  | word h => cases h
  | @arrayLiteral inside h hcount =>
    refine ⟨inside ++ [']'], rfl, ?_⟩
    rw [List.append_assoc, List.length_append]
    exact capture_of_finds (.closed h hcount)

/-- No array literal is the beginning of another. -/
theorem eq_nil_of_accepts (h : Class.arrayLiteral.Accepts text)
    (hmore : Class.arrayLiteral.Accepts (text ++ more)) : more = [] := by
  obtain ⟨inside, rfl, hcapture⟩ := capture_of_accepts h more
  obtain ⟨all, hall, hcapture'⟩ := capture_of_accepts hmore []
  have htail : inside ++ more = all := (List.cons.inj hall).2
  rw [← htail, List.append_nil, hcapture] at hcapture'
  have hlength := Capture.closed.inj hcapture'
  rw [List.length_append] at hlength
  exact List.eq_nil_of_length_eq_zero (by omega)

/-- A token stays the token at its place if a blank follows, with anything behind it. -/
theorem IsLexeme.append_blank (h : IsLexeme kind text after) (hblank : Text.isBlank c = true)
    (more : List Char) : IsLexeme kind text (after ++ c :: more) := by
  refine ⟨h.accepts, ?_, h.first, h.literal⟩
  intro other found haccepts hprefix
  rw [← List.append_assoc] at hprefix
  rcases List.prefix_or_prefix_of_prefix hprefix (List.prefix_append ..) with hfound | ⟨tail, rfl⟩
  · exact h.longest other found haccepts hfound
  cases tail with
  | nil =>
    rw [List.append_nil] at haccepts ⊢
    exact h.longest other _ haccepts (List.prefix_refl _)
  | cons d tail =>
    -- what reaches over the blank is an array literal, and so is the token that it starts with
    rw [List.prefix_append_right_inj, List.cons_prefix_cons] at hprefix
    obtain ⟨rfl, -⟩ := hprefix
    obtain rfl := haccepts.eq_arrayLiteral_of_isBlank (by simp) hblank
    obtain ⟨inside, hinside, -⟩ := capture_of_accepts haccepts []
    obtain ⟨first, rest, rfl⟩ := List.exists_cons_of_ne_nil h.ne_nil
    obtain ⟨rfl, -⟩ := List.cons.inj hinside
    obtain rfl := h.literal rfl
    rw [List.append_assoc] at haccepts
    have hnil := eq_nil_of_accepts h.accepts haccepts
    simp at hnil

end Blank

/-! ## The end of a line -/

section Line

variable {offset stop : Nat} {c : Char} {gap text after after' rest : List Char}
  {tokens : List Token}

/-- A gap stays one if something else follows that starts with the same character, or with a new
line. -/
theorem Gap.of_head? (h : Gap gap after)
    (hhead : ∀ c, after'.head? = some c → after.head? = some c ∨ c = '\n') : Gap gap after' := by
  induction h with
  | nil => exact .nil after'
  | blank hblank _ ih => exact .blank hblank (ih hhead)
  | @comment body gap after hbody hend _ ih =>
    refine .comment hbody ?_ (ih hhead)
    intro c hc
    cases gap with
    | nil => exact (hhead c hc).elim (hend c) id
    | cons d gap => exact hend c hc

/-- What a text is cut into up to the end of a line it is cut into whatever follows. -/
theorem Cuts.append_line (h : Cuts offset text tokens stop rest) (more : List Char) :
    Cuts offset (text ++ '\n' :: more) tokens stop (rest ++ '\n' :: more) := by
  have hhead (after : List Char) :
      ∀ c, (after ++ '\n' :: more).head? = some c → after.head? = some c ∨ c = '\n' := by
    intro c hc
    cases after with
    | nil => exact .inr (Option.some.inj hc).symm
    | cons d after => exact .inl hc
  induction h with
  | gap hgap =>
    rw [List.append_assoc]
    exact .gap (hgap.of_head? (hhead _))
  | token hgap htext _ ih =>
    rw [List.append_assoc, List.append_assoc]
    refine .token (hgap.of_head? ?_) (htext.append_blank (by decide) more) ih
    rw [← List.append_assoc]
    exact hhead _

/-- **A text is cut up to the end of a line as if nothing followed**, and what follows is cut as if
nothing stood before it. -/
theorem scanFrom_append_line (h : scanFrom offset text = .ok tokens) (more : List Char) :
    scanFrom offset (text ++ '\n' :: more) =
      (scanFrom (offset + Text.byteLength text + 1) more).map (tokens ++ ·) := by
  obtain ⟨stop, hcuts⟩ := scanFrom_eq_ok_iff.mp h
  have hstop := hcuts.stop_eq
  rw [Text.byteLength_nil, Nat.add_zero] at hstop
  rw [scanFrom_cuts (hcuts.append_line more), List.nil_append, scanFrom_blank (by decide), hstop]
  rfl

/-! ## Blanks at the ends of a text -/

/-- Blanks are a gap. -/
theorem gap_of_isBlank (h : ∀ c ∈ gap, Text.isBlank c = true) (after : List Char) :
    Gap gap after := by
  induction gap with
  | nil => exact .nil after
  | cons c gap ih =>
    exact .blank (h c (by simp)) (ih fun d hd => h d (List.mem_cons_of_mem _ hd))

/-- A gap at the end of a text goes on with one more blank, which may belong to a comment. -/
theorem Gap.concat_blank (h : Gap gap after) (hnil : after = [])
    (hblank : Text.isBlank c = true) : Gap (gap ++ [c]) [] := by
  induction h with
  | nil => exact .blank hblank (.nil _)
  | blank hfirst _ ih => exact .blank hfirst (ih hnil)
  | @comment body gap after hbody hend hrest ih =>
    rw [List.cons_append, List.append_assoc]
    cases gap with
    | nil =>
      by_cases hline : c = '\n'
      · refine .comment hbody ?_ (.blank hblank (.nil _))
        intro d hd
        exact (Option.some.inj hd).symm.trans hline
      · -- the blank stands on the line of the comment
        rw [List.nil_append, ← List.append_nil (body ++ [c])]
        refine .comment ?_ (by simp) (.nil _)
        intro d hd
        rcases List.mem_append.mp hd with hd | hd
        · exact hbody d hd
        · rwa [List.mem_singleton.mp hd]
    | cons d gap => exact .comment hbody hend (ih hnil)

theorem Cuts.concat_blank (h : Cuts offset text tokens stop rest) (hnil : rest = [])
    (hblank : Text.isBlank c = true) : ∃ stop, Cuts offset (text ++ [c]) tokens stop [] := by
  induction h with
  | @gap offset gap _ hgap =>
    subst hnil
    rw [List.append_nil]
    have hall : Cuts offset (gap ++ [c] ++ []) [] _ [] := .gap (hgap.concat_blank rfl hblank)
    rw [List.append_nil] at hall
    exact ⟨_, hall⟩
  | @token _ _ gap text after rest kind tokens hgap htext _ ih =>
    obtain ⟨stop, hafter⟩ := ih hnil
    rw [List.append_assoc, List.append_assoc]
    refine ⟨stop, .token (hgap.of_head? ?_) (htext.append_blank hblank []) hafter⟩
    obtain ⟨first, more, rfl⟩ := List.exists_cons_of_ne_nil htext.ne_nil
    exact fun d hd => .inl hd

/-- Blanks behind a text change nothing. -/
theorem scanFrom_append_blanks {blanks : List Char} (h : scanFrom offset text = .ok tokens)
    (hblanks : ∀ c ∈ blanks, Text.isBlank c = true) :
    scanFrom offset (text ++ blanks) = .ok tokens := by
  induction blanks generalizing text with
  | nil => rwa [List.append_nil]
  | cons c blanks ih =>
    obtain ⟨stop, hcuts⟩ := scanFrom_eq_ok_iff.mp h
    have hconcat := scanFrom_eq_ok_iff.mpr (hcuts.concat_blank rfl (hblanks c (by simp)))
    rw [List.append_cons]
    exact ih hconcat fun d hd => hblanks d (List.mem_cons_of_mem _ hd)

end Line

end StackScript.Token

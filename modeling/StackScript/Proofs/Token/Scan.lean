import StackScript.Proofs.Token.Word

/-!
# Cutting a text into tokens

Scanning passes over blanks and comments and cuts off what wins at every other place. A word is cut
as it is (`scanFrom_word`), and so are a run of braces (`scanFrom_braces`) and an array literal
whose brackets match (`scanFrom_arrayLiteral`). In the other direction, whatever words a text is cut
into are words of their class (`word_of_scanFrom`).
-/

namespace StackScript.Token

/-- The token that a text is when it is cut as a whole. -/
def whole (kind : Class) (offset : Nat) (text : List Char) : Token :=
  ⟨kind, String.ofList text, ⟨offset, offset + Text.byteLength text⟩⟩

section Scan

variable {kind : Class} {offset : Nat} {text rest : List Char}

theorem scanFrom_nil : scanFrom offset [] = .ok [] := by
  rw [scanFrom.eq_def]

/-- Blanks are passed over. -/
theorem scanFrom_blank {c : Char} (h : Text.isBlank c = true) :
    scanFrom offset (c :: rest) = scanFrom (offset + c.utf8Size) rest := by
  rw [scanFrom.eq_def]
  exact if_pos h

/-- What wins is cut, if it is no malformed array literal. -/
theorem scanFrom_longest {c : Char} {more : List Char} (hblank : Text.isBlank c = false)
    (hcomment : c ≠ '%') (hformed : malformed? offset c (more ++ rest) = none)
    (h : longest c (more ++ rest) = (kind, more.length)) :
    scanFrom offset (c :: more ++ rest) =
      (scanFrom (offset + Text.byteLength (c :: more)) rest).map
        (whole kind offset (c :: more) :: ·) := by
  rw [List.cons_append, scanFrom.eq_def]
  dsimp only
  rw [if_neg (Bool.eq_false_iff.mp hblank), if_neg hcomment, hformed, h]
  dsimp only
  rw [cut, List.take_left, List.drop_left]
  rfl

/-- **A word is cut as it is**, if something follows that continues no word. -/
theorem scanFrom_word (h : Word kind text) (hrest : EndsWord rest) :
    scanFrom offset (text ++ rest) =
      (scanFrom (offset + Text.byteLength text) rest).map (whole kind offset text :: ·) := by
  cases text with
  | nil => cases h
  | cons c more =>
    obtain ⟨hblank, hcomment, hopen⟩ := h.first
    exact scanFrom_longest hblank hcomment (if_neg hopen) (longest_word h hrest)

/-- **An array literal is cut as it is.** -/
theorem scanFrom_arrayLiteral (h : capture 0 (text ++ rest) = .closed text.length) :
    scanFrom offset ('[' :: text ++ rest) =
      (scanFrom (offset + Text.byteLength ('[' :: text)) rest).map
        (whole .arrayLiteral offset ('[' :: text) :: ·) := by
  have hreach : Class.arrayLiteral.reach '[' (text ++ rest) = some text.length := by
    rw [Class.reach, if_pos rfl, h]
  refine scanFrom_longest (by decide) (by decide) ?_
    (longest_of_reach (by decide) hreach (by rintro ⟨⟩))
  rw [malformed?, if_pos rfl, h]

/-- **A run of braces is cut as one token.** -/
theorem scanFrom_braces {c : Char} (hrun : ∀ d ∈ c :: text, isBrace d = true)
    (hrest : ∀ d, rest.head? = some d → isBrace d = false) :
    scanFrom offset (c :: text ++ rest) =
      (scanFrom (offset + Text.byteLength (c :: text)) rest).map
        (whole .braces offset (c :: text) :: ·) := by
  have hc := hrun c (List.mem_cons_self ..)
  have hreach : Class.braces.reach c (text ++ rest) = some text.length := by
    rw [Class.reach, if_pos hc,
      Text.takeWhile_append (fun d hd => hrun d (List.mem_cons_of_mem _ hd)) hrest]
  have hfirst : Text.isBlank c = false ∧ c ≠ '%' ∧ c ≠ '[' := by
    rcases Bool.or_eq_true_iff.mp hc with hopen | hclose
    · obtain rfl := beq_iff_eq.mp hopen
      decide
    · obtain rfl := beq_iff_eq.mp hclose
      decide
  exact scanFrom_longest hfirst.1 hfirst.2.1 (if_neg hfirst.2.2)
    (longest_of_reach (by decide) hreach (by rintro ⟨⟩))

/-- An opening bracket that is let through starts an array literal. -/
theorem isWord_of_bracket {n : Nat} (hformed : malformed? offset '[' rest = none)
    (h : longest '[' rest = (kind, n)) : kind.isWord = false := by
  rw [malformed?, if_pos rfl] at hformed
  rcases hcapture : capture 0 rest with length | ⟨length, c⟩ | _ <;> rw [hcapture] at hformed
  · have hreach : Class.arrayLiteral.reach '[' rest = some length := by
      rw [Class.reach, if_pos rfl, hcapture]
    rw [longest_of_reach (by decide) hreach (by rintro ⟨⟩)] at h
    cases h
    rfl
  · cases hformed
  · cases hformed

/-- **Every word that is cut is a word of its class.** -/
theorem word_of_scanFrom {tokens : List Token} (h : scanFrom offset text = .ok tokens) :
    ∀ token ∈ tokens, token.kind.isWord = true → Word token.kind token.text.toList := by
  fun_induction scanFrom offset text generalizing tokens with
  | case1 offset =>
    cases h
    intro token htoken
    cases htoken
  | case2 offset c rest hblank ih => exact ih h
  | case3 offset rest comment hblank =>
    rename_i ih
    exact ih h
  | case4 offset c rest hblank hcomment e hformed => cases h
  | case5 offset c rest hblank hcomment hformed kind n hlongest token =>
    rename_i ih
    rcases hrest : scanFrom token.span.stop (rest.drop n) with e | later <;> rw [hrest] at h
    · cases h
    · cases h
      intro other hother hword
      rcases List.mem_cons.mp hother with rfl | hother
      · change kind.isWord = true at hword
        -- at a bracket an array literal would have won, which is no word
        have hopen : c ≠ '[' := by
          rintro rfl
          rw [isWord_of_bracket hformed hlongest] at hword
          cases hword
        have htext : token.text.toList = c :: rest.take n := String.toList_ofList
        rw [htext]
        exact word_of_longest hword (Bool.eq_false_iff.mpr hblank) hcomment hopen hlongest
      · exact ih hrest other hother hword

end Scan

end StackScript.Token

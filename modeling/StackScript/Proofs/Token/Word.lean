import StackScript.Proofs.Number.Literal
import StackScript.Proofs.Token.Longest

/-!
# Words

A word is a token that is no bracket, brace or array literal: a name, an integer, a real or a single
symbol. `Word` says what the words of each class look like. Where something follows that continues
no word (`EndsWord`), the class of a word wins with all of it, whatever the word was followed by
when it was first read (`longest_word`); and what a class of words wins is a word of that class
(`word_of_longest`).
-/

namespace StackScript.Token

/-! ## What words look like -/

/-- Whether a character and digits after it are an integer: it is a digit itself, or a minus sign
with a digit after it. -/
def StartsInteger (first : Char) (digits : List Char) : Prop :=
  (∀ c ∈ digits, c.isDigit = true) ∧ (first.isDigit = true ∨ first = '-' ∧ digits ≠ [])

/-- The words of each class. -/
inductive Word : Class → List Char → Prop where
  /-- a bare name -/
  | bare {letter : Char} {rest : List Char} (hletter : letter.isAlpha = true)
    (hrest : ∀ c ∈ rest, Name.isIdentifierRest c = true) : Word .name (letter :: rest)
  /-- a name literal -/
  | literal {letter : Char} {rest : List Char} (hletter : letter.isAlpha = true)
    (hrest : ∀ c ∈ rest, Name.isIdentifierRest c = true) :
    Word .name (Name.marker :: letter :: rest)
  /-- digits, with an optional minus sign -/
  | integer {first : Char} {digits : List Char} (h : StartsInteger first digits) :
    Word .integer (first :: digits)
  /-- digits around a point, with an optional minus sign -/
  | real {first : Char} {digits fraction : List Char} (h : StartsInteger first digits)
    (hfraction : Number.isDigits fraction = true) :
    Word .real (first :: (digits ++ '.' :: fraction))
  /-- a character that starts nothing else, though a marker or a minus sign may stand alone -/
  | symbol {c : Char} (hblank : Text.isBlank c = false) (hcomment : c ≠ '%') (hopen : c ≠ '[')
    (hclose : c ≠ ']') (hletter : c.isAlpha = false) (hdigit : c.isDigit = false)
    (hbrace : isBrace c = false) : Word .symbol [c]

/-- Whether what follows continues no word: no letter, digit or underscore, and no point. -/
def EndsWord (rest : List Char) : Prop :=
  ∀ c, rest.head? = some c → Name.isIdentifierRest c = false ∧ c ≠ '.'

theorem endsWord_cons {c : Char} {rest : List Char} (hname : Name.isIdentifierRest c = false)
    (hpoint : c ≠ '.') : EndsWord (c :: rest) := by
  intro d hd
  obtain rfl := Option.some.inj hd
  exact ⟨hname, hpoint⟩

theorem isAlphanum_of_endsWord {rest : List Char} (h : EndsWord rest) :
    ∀ c, rest.head? = some c → c.isAlpha = false ∧ c.isDigit = false := by
  intro c hc
  obtain ⟨hrest, -⟩ := h c hc
  rw [Name.isIdentifierRest, Char.isAlphanum, Bool.or_eq_false_iff, Bool.or_eq_false_iff] at hrest
  exact hrest.1

theorem isDigit_of_endsWord {rest : List Char} (h : EndsWord rest) :
    ∀ c, rest.head? = some c → c.isDigit = false :=
  fun c hc => (isAlphanum_of_endsWord h c hc).2

/-! ## How far a word reaches -/

section Reach

variable {first : Char} {digits rest : List Char}

theorem integerReach_append (h : StartsInteger first digits)
    (hrest : ∀ c, rest.head? = some c → c.isDigit = false) :
    integerReach first (digits ++ rest) = some digits.length := by
  rw [integerReach, Text.takeWhile_append h.1 hrest]
  rcases h.2 with hdigit | ⟨rfl, hne⟩
  · exact if_pos hdigit
  · exact (if_neg (by decide)).trans (if_pos ⟨rfl, mt List.length_eq_zero_iff.mp hne⟩)

theorem startsInteger_of_integerReach {n : Nat} (h : integerReach first rest = some n) :
    StartsInteger first (rest.take n) := by
  rw [integerReach] at h
  have hdigits : ∀ c ∈ rest.takeWhile Char.isDigit, c.isDigit = true :=
    fun _ hc => List.mem_takeWhile_imp hc
  split at h
  · next hfirst =>
    cases h
    rw [Text.take_length_takeWhile]
    exact ⟨hdigits, .inl hfirst⟩
  · split at h
    · next hminus =>
      cases h
      rw [Text.take_length_takeWhile]
      exact ⟨hdigits, .inr ⟨hminus.1, mt List.length_eq_zero_iff.mpr hminus.2⟩⟩
    · cases h

theorem realReach_append {fraction : List Char} (h : StartsInteger first digits)
    (hfraction : Number.isDigits fraction = true)
    (hrest : ∀ c, rest.head? = some c → c.isDigit = false) :
    realReach first (digits ++ '.' :: (fraction ++ rest)) =
      some (digits.length + 1 + fraction.length) := by
  have hinteger : integerReach first (digits ++ '.' :: (fraction ++ rest)) = some digits.length :=
    integerReach_append h fun c hc => by
      cases hc
      rfl
  obtain ⟨hne, hall⟩ := Number.isDigits_iff.mp hfraction
  rw [realReach, hinteger]
  dsimp only
  rw [List.drop_left]
  change (if ((fraction ++ rest).takeWhile Char.isDigit).length = 0 then none
    else some (digits.length + 1 + ((fraction ++ rest).takeWhile Char.isDigit).length)) = _
  rw [Text.takeWhile_append hall hrest, if_neg (mt List.length_eq_zero_iff.mp hne)]

/-- An integer that no point follows is no real. -/
theorem realReach_eq_none (h : StartsInteger first digits) (hrest : EndsWord rest) :
    realReach first (digits ++ rest) = none := by
  rw [realReach, integerReach_append h (isDigit_of_endsWord hrest)]
  dsimp only
  rw [List.drop_left]
  split
  · next fraction =>
    exact absurd rfl (hrest '.' rfl).2
  · rfl

theorem word_of_realReach {n : Nat} (h : realReach first rest = some n) :
    Word .real (first :: rest.take n) := by
  rw [realReach] at h
  rcases hinteger : integerReach first rest with _ | whole <;> rw [hinteger] at h
  · cases h
  dsimp only at h
  split at h
  · next fraction hdrop =>
    split at h
    · cases h
    · next hplaces =>
      cases h
      have htake : rest.take (whole + 1 + (fraction.takeWhile Char.isDigit).length) =
          rest.take whole ++ '.' :: fraction.takeWhile Char.isDigit := by
        rw [Nat.add_assoc, List.take_add, hdrop, Nat.add_comm 1, List.take_succ_cons,
          Text.take_length_takeWhile]
      rw [htake]
      exact .real (startsInteger_of_integerReach hinteger) (Number.isDigits_iff.mpr
        ⟨mt List.length_eq_zero_iff.mpr hplaces, fun c hc => List.mem_takeWhile_imp hc⟩)
  · cases h

theorem nameReach_bare (hletter : first.isAlpha = true) :
    nameReach first rest = some (rest.takeWhile Name.isIdentifierRest).length :=
  if_pos hletter

theorem nameReach_literal {letter : Char} (hletter : letter.isAlpha = true) :
    nameReach Name.marker (letter :: rest) =
      some (1 + (rest.takeWhile Name.isIdentifierRest).length) :=
  (if_neg (by decide)).trans ((if_pos rfl).trans (if_pos hletter))

theorem word_of_nameReach {n : Nat} (h : nameReach first rest = some n) :
    Word .name (first :: rest.take n) := by
  rcases hletter : first.isAlpha with _ | _
  · have hmarked : nameReach first rest = _ := if_neg (Bool.eq_false_iff.mp hletter)
    rw [hmarked] at h
    split at h
    · next hmarker =>
      subst hmarker
      split at h
      · next letter more =>
        split at h
        · next hfirst =>
          cases h
          rw [Nat.add_comm, List.take_succ_cons, Text.take_length_takeWhile]
          exact .literal hfirst fun c hc => List.mem_takeWhile_imp hc
        · cases h
      · cases h
    · cases h
  · rw [nameReach_bare hletter] at h
    cases h
    rw [Text.take_length_takeWhile]
    exact .bare hletter fun c hc => List.mem_takeWhile_imp hc

end Reach

/-! ## Words win -/

section Longest

variable {kind : Class} {c : Char} {more rest : List Char}

/-- A single symbol is matched by no class of words. -/
theorem reach_symbol (hopen : c ≠ '[') (hclose : c ≠ ']') (hletter : c.isAlpha = false)
    (hdigit : c.isDigit = false) (hbrace : isBrace c = false) (hrest : EndsWord rest) :
    ∀ other ∈ Class.words, other.reach c rest = none := by
  have hinteger : integerReach c rest = none := by
    have hnone : rest.takeWhile Char.isDigit = [] :=
      Text.takeWhile_eq_nil (isDigit_of_endsWord hrest)
    rw [integerReach, hnone, hdigit]
    exact (if_neg Bool.false_ne_true).trans (if_neg fun h => h.2 rfl)
  intro other hother
  cases other with
  | name =>
    refine (if_neg (Bool.eq_false_iff.mp hletter)).trans ?_
    by_cases hmarker : c = Name.marker
    · -- a marker is no name if no letter follows it
      rw [if_pos hmarker]
      split
      · next letter more =>
        obtain ⟨hend, -⟩ := isAlphanum_of_endsWord hrest letter rfl
        exact if_neg (Bool.eq_false_iff.mp hend)
      · rfl
    · exact if_neg hmarker
  | arrayLiteral => exact if_neg hopen
  | closeBracket => exact if_neg hclose
  | integer => exact hinteger
  | real => rw [Class.reach, realReach, hinteger]
  | braces => exact if_neg (Bool.eq_false_iff.mp hbrace)
  | symbol => exact absurd hother (by decide)

/-- **A word wins as long as something follows that continues no word.** -/
theorem longest_word (h : Word kind (c :: more)) (hrest : EndsWord rest) :
    longest c (more ++ rest) = (kind, more.length) := by
  have hname := fun c hc => (hrest c hc).1
  have hdigit := isDigit_of_endsWord hrest
  cases h with
  | bare hletter hmore =>
    refine longest_of_reach (by decide) ?_ (by rintro ⟨⟩)
    rw [Class.reach, nameReach_bare hletter, Text.takeWhile_append hmore hname]
  | literal hletter hmore =>
    refine longest_of_reach (by decide) ?_ (by rintro ⟨⟩)
    rw [List.cons_append, Class.reach, nameReach_literal hletter, Text.takeWhile_append hmore hname,
      List.length_cons, Nat.add_comm]
  | integer hinteger =>
    exact longest_of_reach (by decide) (integerReach_append hinteger hdigit) fun _ =>
      realReach_eq_none hinteger hrest
  | @real _ digits fraction hinteger hfraction =>
    refine longest_of_reach (by decide) ?_ (by rintro ⟨⟩)
    rw [List.append_assoc, List.cons_append, Class.reach,
      realReach_append hinteger hfraction hdigit, List.length_append, List.length_cons]
    congr 1
    omega
  | symbol _ _ hopen hclose hletter hdigit hbrace =>
    exact longest_of_reach_eq_none (reach_symbol hopen hclose hletter hdigit hbrace hrest)

/-- Whether a token of the class is a word. -/
def Class.isWord : Class → Bool
  | .name | .integer | .real | .symbol => true
  | .arrayLiteral | .closeBracket | .braces => false

theorem Word.isWord {word : List Char} (h : Word kind word) : kind.isWord = true := by
  cases h <;> rfl

/-- What a class of words wins is a word of that class. -/
theorem word_of_longest {n : Nat} (hkind : kind.isWord = true) (hblank : Text.isBlank c = false)
    (hcomment : c ≠ '%') (hopen : c ≠ '[') (h : longest c rest = (kind, n)) :
    Word kind (c :: rest.take n) := by
  have hreach := reach_of_longest h
  cases kind with
  | name => exact word_of_nameReach hreach
  | integer => exact .integer (startsInteger_of_integerReach hreach)
  | real => exact word_of_realReach hreach
  | symbol =>
    -- every other class would have won over a single symbol
    cases hreach
    have hnone := reach_eq_none_of_symbol h
    have hname : nameReach c rest = none := hnone .name (by decide)
    have hclose : (if c = ']' then some 0 else none) = none := hnone .closeBracket (by decide)
    have hinteger : integerReach c rest = none := hnone .integer (by decide)
    have hbraces : (if isBrace c then some (rest.takeWhile isBrace).length else none) = none :=
      hnone .braces (by decide)
    refine .symbol hblank hcomment hopen ?_ ?_ ?_ ?_
    · rintro rfl
      cases hclose
    · rcases hletter : c.isAlpha with _ | _
      · rfl
      · rw [nameReach_bare hletter] at hname
        cases hname
    · rcases hdigit : c.isDigit with _ | _
      · rfl
      · rw [integerReach, hdigit] at hinteger
        cases hinteger
    · rcases hbrace : isBrace c with _ | _
      · rfl
      · rw [hbrace] at hbraces
        cases hbraces
  | _ => cases hkind

end Longest

/-- A word starts with no blank, no comment and no array literal. -/
theorem Word.first {kind : Class} {c : Char} {more : List Char} (h : Word kind (c :: more)) :
    Text.isBlank c = false ∧ c ≠ '%' ∧ c ≠ '[' := by
  have halphanum {c : Char} (h : c.isAlphanum = true) :
      Text.isBlank c = false ∧ c ≠ '%' ∧ c ≠ '[' :=
    ⟨Text.isBlank_of_isAlphanum h, Text.ne_of_kind h rfl, Text.ne_of_kind h rfl⟩
  have hinteger {digits : List Char} (h : StartsInteger c digits) :
      Text.isBlank c = false ∧ c ≠ '%' ∧ c ≠ '[' := by
    rcases h.2 with hdigit | ⟨rfl, -⟩
    · exact halphanum (Text.isAlphanum_of_isDigit hdigit)
    · decide
  cases h with
  | bare hletter _ => exact halphanum (Text.isAlphanum_of_isAlpha hletter)
  | literal _ _ => decide
  | integer h => exact hinteger h
  | real h _ => exact hinteger h
  | symbol hblank hcomment hopen _ _ _ _ => exact ⟨hblank, hcomment, hopen⟩

end StackScript.Token

import StackScript.Proofs.Token.Capture
import StackScript.Proofs.Token.Word

/-!
# The lexical classes as sets of texts

Every lexical class is a set of texts (`Class.Accepts`). The token at a place is the longest text
that stands there and belongs to any class, and if there are several classes that it belongs to, it
is the one that is not that of single symbols (`IsLexeme`). The class with the longest match and how
far it reaches are just that (`isLexeme_of_longest`, `longest_of_isLexeme`), although they are found
by looking at one class after the other.
-/

namespace StackScript.Token

/-! ## The classes -/

/-- The texts that belong to a lexical class. -/
inductive Class.Accepts : Class → List Char → Prop where
  /-- names, integers and reals are words -/
  | word {kind : Class} {text : List Char} (h : Word kind text) : Accepts kind text
  /-- in an array literal all brackets match, and none but the last closes the first -/
  | arrayLiteral {inside : List Char} (h : StaysOpen 0 inside)
    (hcount : inside.count ']' = inside.count '[') :
    Accepts .arrayLiteral ('[' :: (inside ++ [']']))
  /-- a closing bracket -/
  | closeBracket : Accepts .closeBracket [']']
  /-- a run of braces -/
  | braces {c : Char} {run : List Char} (h : ∀ d ∈ c :: run, isBrace d = true) :
    Accepts .braces (c :: run)
  /-- any character that is not blank -/
  | symbol {c : Char} (h : Text.isBlank c = false) : Accepts .symbol [c]

/-- The text is the token at its place, before the text `after`. -/
structure IsLexeme (kind : Class) (text after : List Char) : Prop where
  /-- the text belongs to the class -/
  accepts : kind.Accepts text
  /-- no text at this place that belongs to a class is longer, and one of the same length belongs to
  no other class than that of single symbols -/
  longest : ∀ other more, other.Accepts more → more <+: text ++ after →
    more.length < text.length ∨ more.length = text.length ∧ (other = kind ∨ other = .symbol)
  /-- neither blanks nor comments are tokens -/
  first : ∀ c, text.head? = some c → Text.isBlank c = false ∧ c ≠ '%'
  /-- an opening bracket starts an array literal and nothing else -/
  literal : text.head? = some '[' → kind = .arrayLiteral

/-! ## How far a class reaches -/

section Reach

variable {kind other : Class} {c : Char} {more rest after : List Char} {n m : Nat}

theorem integerReach_le_length (h : integerReach c rest = some n) : n ≤ rest.length := by
  have hdigits := (List.takeWhile_prefix (l := rest) Char.isDigit).length_le
  rw [integerReach] at h
  split at h
  · cases h
    exact hdigits
  · split at h <;> cases h
    exact hdigits

theorem realReach_le_length (h : realReach c rest = some n) : n ≤ rest.length := by
  rw [realReach] at h
  rcases hinteger : integerReach c rest with _ | whole <;> rw [hinteger] at h
  · cases h
  dsimp only at h
  split at h
  · next fraction hdrop =>
    split at h <;> cases h
    have hplaces := (List.takeWhile_prefix (l := fraction) Char.isDigit).length_le
    have hlength := congrArg List.length hdrop
    rw [List.length_drop, List.length_cons] at hlength
    omega
  · cases h

theorem nameReach_le_length (h : nameReach c rest = some n) : n ≤ rest.length := by
  rw [nameReach.eq_def] at h
  split at h
  · cases h
    exact (List.takeWhile_prefix _).length_le
  · split at h
    · split at h
      · next letter tail =>
        split at h <;> cases h
        have htail := (List.takeWhile_prefix (l := tail) Name.isIdentifierRest).length_le
        rw [List.length_cons]
        omega
      · cases h
    · cases h

/-- An array literal is matched exactly if it is captured. -/
theorem reach_arrayLiteral_iff :
    Class.arrayLiteral.reach c rest = some n ↔ c = '[' ∧ capture 0 rest = .closed n := by
  rw [Class.reach]
  by_cases hopen : c = '['
  · rw [if_pos hopen]
    rcases capture 0 rest with length | ⟨length, d⟩ | _ <;> simp [hopen]
  · simp [hopen]

/-- A class reaches no further than the text. -/
theorem reach_le_length (h : kind.reach c rest = some n) : n ≤ rest.length := by
  cases kind with
  | name => exact nameReach_le_length h
  | arrayLiteral =>
    obtain ⟨-, hcapture⟩ := reach_arrayLiteral_iff.mp h
    rw [capture_eq_iff] at hcapture
    cases hcapture with
    | closed => simp
  | closeBracket =>
    rw [Class.reach] at h
    split at h <;> cases h
    exact Nat.zero_le _
  | integer => exact integerReach_le_length h
  | real => exact realReach_le_length h
  | braces =>
    rw [Class.reach] at h
    split at h <;> cases h
    exact (List.takeWhile_prefix _).length_le
  | symbol =>
    cases h
    exact Nat.zero_le _

/-- What a class reaches belongs to it. -/
theorem accepts_of_reach (hblank : Text.isBlank c = false) (h : kind.reach c rest = some n) :
    kind.Accepts (c :: rest.take n) := by
  cases kind with
  | name => exact .word (word_of_nameReach h)
  | arrayLiteral =>
    obtain ⟨rfl, hcapture⟩ := reach_arrayLiteral_iff.mp h
    rw [capture_eq_iff] at hcapture
    cases hcapture with
    | @closed inside after hopen hcount =>
      rw [List.take_length_add_append, List.take_one]
      exact .arrayLiteral hopen hcount
  | closeBracket =>
    rw [Class.reach] at h
    split at h
    · next hclose =>
      cases h
      rw [hclose]
      exact .closeBracket
    · cases h
  | integer => exact .word (.integer (startsInteger_of_integerReach h))
  | real => exact .word (word_of_realReach h)
  | braces =>
    rw [Class.reach] at h
    split at h
    · next hbrace =>
      cases h
      rw [Text.take_length_takeWhile]
      refine .braces fun d hd => ?_
      rcases List.mem_cons.mp hd with rfl | hd
      · exact hbrace
      · exact List.mem_takeWhile_imp hd
    · cases h
  | symbol =>
    cases h
    exact .symbol hblank

/-- A class reaches at least as far as a text that belongs to it. -/
theorem exists_reach_of_accepts (hkind : kind ∈ Class.words) (h : kind.Accepts (c :: more))
    (after : List Char) : ∃ n, kind.reach c (more ++ after) = some n ∧ more.length ≤ n := by
  cases h with
  | word h =>
    cases h with
    | bare hletter hmore => exact ⟨_, nameReach_bare hletter, Text.length_le_takeWhile hmore after⟩
    | @literal _ run hletter hmore =>
      have hlength := Text.length_le_takeWhile hmore after
      refine ⟨1 + ((run ++ after).takeWhile Name.isIdentifierRest).length,
        nameReach_literal hletter, ?_⟩
      rw [List.length_cons]
      omega
    | integer h =>
      have hlength := Text.length_le_takeWhile h.1 after
      refine ⟨_, ?_, hlength⟩
      rw [Class.reach, integerReach]
      rcases h.2 with hdigit | ⟨rfl, hne⟩
      · exact if_pos hdigit
      · have hpos := List.length_pos_iff.mpr hne
        exact (if_neg (by decide)).trans (if_pos ⟨rfl, by omega⟩)
    | @real _ digits fraction h hfraction =>
      obtain ⟨hne, hall⟩ := Number.isDigits_iff.mp hfraction
      have hlength := Text.length_le_takeWhile hall after
      have hpos := List.length_pos_iff.mpr hne
      have hinteger : integerReach c (digits ++ '.' :: (fraction ++ after)) =
          some digits.length :=
        integerReach_append h fun d hd => by
          cases hd
          rfl
      refine ⟨digits.length + 1 + ((fraction ++ after).takeWhile Char.isDigit).length, ?_, ?_⟩
      · rw [List.append_assoc, List.cons_append, Class.reach, realReach, hinteger]
        dsimp only
        rw [List.drop_left]
        exact if_neg (by omega)
      · rw [List.length_append, List.length_cons]
        omega
    | symbol => exact absurd hkind (by decide)
  | @arrayLiteral inside h hcount =>
    refine ⟨inside.length + 1, ?_, by simp⟩
    rw [reach_arrayLiteral_iff, capture_eq_iff, List.append_assoc]
    exact ⟨rfl, .closed h hcount⟩
  | closeBracket => exact ⟨0, rfl, Nat.le_refl 0⟩
  | braces h =>
    refine ⟨_, if_pos (h c (by simp)), ?_⟩
    exact Text.length_le_takeWhile (fun d hd => h d (List.mem_cons_of_mem _ hd)) after
  | symbol => exact absurd hkind (by decide)

/-- A class that matches wins, or it is an integer that goes on as a real. -/
theorem longest_cases (hkind : kind ∈ Class.words) (h : kind.reach c rest = some n) :
    longest c rest = (kind, n) ∨ kind = .integer ∧ ∃ m, longest c rest = (.real, m) ∧ n < m := by
  rcases hreal : realReach c rest with _ | m
  · exact .inl (longest_of_reach hkind h fun _ => hreal)
  · by_cases hinteger : kind = .integer
    · subst hinteger
      have hlongest : longest c rest = (.real, m) :=
        longest_of_reach (by decide) hreal (by rintro ⟨⟩)
      exact .inr ⟨rfl, m, hlongest, integerReach_lt_realReach hreal h⟩
    · exact .inl (longest_of_reach hkind h fun hkind => absurd hkind hinteger)

end Reach

/-! ## The winner is the longest text -/

section Lexeme

variable {kind : Class} {c : Char} {more rest after : List Char} {n offset : Nat}

/-- An array literal is malformed exactly if its brackets do not match. -/
theorem malformed?_eq_none_iff :
    malformed? offset c rest = none ↔ c = '[' → ∃ length, capture 0 rest = .closed length := by
  rw [malformed?]
  by_cases hopen : c = '['
  · rw [if_pos hopen]
    rcases capture 0 rest with length | ⟨length, d⟩ | _ <;> simp [hopen]
  · simp [hopen]

/-- No text at a place is longer than what wins there, and none of the same length is of a class
other than the one that wins, unless it is a single symbol. -/
theorem longest_le_of_accepts (h : longest c (more ++ after) = (kind, n)) {other : Class}
    (hother : other.Accepts (c :: more)) :
    more.length < n ∨ more.length = n ∧ (other = kind ∨ other = .symbol) := by
  by_cases hsymbol : other = .symbol
  · subst hsymbol
    have hlength : more.length = 0 := by
      cases hother with
      | word h =>
        cases h
        rfl
      | symbol => rfl
    rcases Nat.eq_zero_or_pos n with hzero | hpos
    · exact .inr ⟨hlength.trans hzero.symm, .inr rfl⟩
    · exact .inl (hlength ▸ hpos)
  · have hwords : other ∈ Class.words := by cases other <;> first | decide | contradiction
    obtain ⟨m, hm, hle⟩ := exists_reach_of_accepts hwords hother after
    rcases longest_cases hwords hm with hwins | ⟨-, m', hwins, hlt⟩
    · obtain ⟨rfl, rfl⟩ := Prod.mk.inj (h.symm.trans hwins)
      rcases Nat.lt_or_eq_of_le hle with hlt | heq
      · exact .inl hlt
      · exact .inr ⟨heq, .inl rfl⟩
    · obtain ⟨-, rfl⟩ := Prod.mk.inj (h.symm.trans hwins)
      exact .inl (by omega)

/-- **What wins is the longest text at its place that belongs to any class.** -/
theorem isLexeme_of_longest (hblank : Text.isBlank c = false) (hcomment : c ≠ '%')
    (hformed : malformed? offset c rest = none) (h : longest c rest = (kind, n)) :
    IsLexeme kind (c :: rest.take n) (rest.drop n) := by
  have hreach := reach_of_longest h
  have hlength : (rest.take n).length = n := by
    rw [List.length_take, Nat.min_eq_left (reach_le_length hreach)]
  refine ⟨accepts_of_reach hblank hreach, ?_, ?_, ?_⟩
  · intro other text haccepts hprefix
    rw [List.cons_append, List.take_append_drop] at hprefix
    obtain ⟨after, hafter⟩ := hprefix
    cases text with
    | nil =>
      cases haccepts with
      | word h => cases h
    | cons d more =>
      obtain ⟨rfl, rfl⟩ := List.cons.inj hafter
      rw [List.length_cons, List.length_cons, hlength, Nat.add_lt_add_iff_right,
        Nat.add_right_cancel_iff]
      exact longest_le_of_accepts h haccepts
  · intro d hd
    obtain rfl := Option.some.inj hd
    exact ⟨hblank, hcomment⟩
  · intro hd
    obtain ⟨length, hcapture⟩ := malformed?_eq_none_iff.mp hformed (Option.some.inj hd)
    have hliteral := reach_arrayLiteral_iff.mpr ⟨Option.some.inj hd, hcapture⟩
    have hwins := longest_of_reach (by decide) hliteral (by rintro ⟨⟩)
    exact (Prod.mk.inj (h.symm.trans hwins)).1

/-- **The longest text that belongs to any class wins.** -/
theorem longest_of_isLexeme (h : IsLexeme kind (c :: more) after) :
    longest c (more ++ after) = (kind, more.length) := by
  obtain ⟨winner, n, hwinner⟩ : ∃ winner n, longest c (more ++ after) = (winner, n) := ⟨_, _, rfl⟩
  have hreach := reach_of_longest hwinner
  -- neither is longer than the other
  have hle := longest_le_of_accepts hwinner h.accepts
  have hge := h.longest winner (c :: (more ++ after).take n)
    (accepts_of_reach (h.first c rfl).1 hreach) (by simp [List.take_prefix])
  rw [List.length_cons, List.length_cons, List.length_take,
    Nat.min_eq_left (reach_le_length hreach)] at hge
  have hlength : n = more.length := by omega
  subst hlength
  rw [hwinner]
  rcases hle with hlt | ⟨-, rfl | rfl⟩
  · omega
  · rfl
  · rcases hge with hlt | ⟨-, rfl | rfl⟩
    · omega
    · rfl
    · rfl

/-- What is a token is no malformed array literal. -/
theorem malformed?_of_isLexeme (h : IsLexeme kind (c :: more) after) :
    malformed? offset c (more ++ after) = none := by
  rw [malformed?_eq_none_iff]
  intro hopen
  obtain rfl := h.literal (congrArg some hopen)
  obtain ⟨length, hreach, -⟩ := exists_reach_of_accepts (by decide) h.accepts after
  exact ⟨length, (reach_arrayLiteral_iff.mp hreach).2⟩

end Lexeme

end StackScript.Token

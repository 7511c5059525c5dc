import StackScript.Proofs.Text.Characters
import StackScript.Token

/-!
# The class with the longest match

Which class wins at a position is settled by running through the classes and keeping the best match
so far. What comes out is characterised here without running through anything: the winner matches
as far as it is said to (`reach_of_longest`), single symbols win only where no other class matches
(`reach_eq_none_of_symbol`), and since hardly any two classes can start with the same character
(`startsWith_unique`), a class that matches wins, unless it is an integer that goes on as a real
(`longest_of_reach`).
-/

namespace StackScript.Token

/-! ## What a class can start with -/

/-- Whether a class of words can match at a character at all. -/
def Class.startsWith : Class → Char → Bool
  | .name, c => c.isAlpha || c == Name.marker
  | .arrayLiteral, c => c == '['
  | .closeBracket, c => c == ']'
  | .integer, c | .real, c => c.isDigit || c == '-'
  | .braces, c => isBrace c
  | .symbol, _ => true

theorem integerReach_eq_none {c : Char} {rest : List Char} (h : (c.isDigit || c == '-') = false) :
    integerReach c rest = none := by
  obtain ⟨hdigit, hminus⟩ := Bool.or_eq_false_iff.mp h
  rw [integerReach, hdigit, if_neg Bool.false_ne_true, if_neg]
  rintro ⟨rfl, -⟩
  cases hminus

/-- A class does not match at a character that it cannot start with. -/
theorem reach_eq_none {kind : Class} {c : Char} {rest : List Char}
    (h : kind.startsWith c = false) : kind.reach c rest = none := by
  cases kind with
  | name =>
    obtain ⟨halpha, hmarker⟩ := Bool.or_eq_false_iff.mp h
    exact (if_neg (Bool.eq_false_iff.mp halpha)).trans (if_neg (beq_eq_false_iff_ne.mp hmarker))
  | arrayLiteral => exact if_neg (beq_eq_false_iff_ne.mp h)
  | closeBracket => exact if_neg (beq_eq_false_iff_ne.mp h)
  | integer => exact integerReach_eq_none h
  | real => rw [Class.reach, realReach, integerReach_eq_none h]
  | braces => exact if_neg (Bool.eq_false_iff.mp h)
  | symbol => cases h

theorem startsWith_of_reach {kind : Class} {c : Char} {rest : List Char} {n : Nat}
    (h : kind.reach c rest = some n) : kind.startsWith c = true := by
  rcases hstarts : kind.startsWith c with _ | _
  · rw [reach_eq_none hstarts] at h
    cases h
  · rfl

/-- The class of words that can start with a character, where an integer stands for both kinds of
numbers, and a single symbol for none. -/
def leading (c : Char) : Class :=
  if c.isAlpha || c == Name.marker then .name
  else if c = '[' then .arrayLiteral
  else if c = ']' then .closeBracket
  else if c.isDigit || c == '-' then .integer
  else if isBrace c then .braces
  else .symbol

theorem leading_of_number {c : Char} (h : (c.isDigit || c == '-') = true) :
    leading c = .integer := by
  rcases Bool.or_eq_true_iff.mp h with hdigit | hminus
  · have halpha : c.isAlpha = false := by
      rcases halpha : c.isAlpha with _ | _
      · rfl
      · rw [Text.isDigit_of_isAlpha halpha] at hdigit
        cases hdigit
    have hmarker : (c == Name.marker) = false :=
      beq_eq_false_iff_ne.mpr (Text.ne_of_kind hdigit rfl)
    rw [leading, halpha, hmarker, if_neg (by decide), if_neg (Text.ne_of_kind hdigit rfl),
      if_neg (Text.ne_of_kind hdigit rfl), if_pos h]
  · obtain rfl := beq_iff_eq.mp hminus
    decide

/-- A class of words starts with the characters that lead to it. -/
theorem leading_of_startsWith {kind : Class} {c : Char} (hkind : kind ∈ Class.words)
    (h : kind.startsWith c = true) :
    leading c = kind ∨ kind = .real ∧ leading c = .integer := by
  cases kind with
  | name => exact .inl (if_pos h)
  | arrayLiteral =>
    obtain rfl := beq_iff_eq.mp h
    exact .inl (by decide)
  | closeBracket =>
    obtain rfl := beq_iff_eq.mp h
    exact .inl (by decide)
  | integer => exact .inl (leading_of_number h)
  | real => exact .inr ⟨rfl, leading_of_number h⟩
  | braces =>
    rcases Bool.or_eq_true_iff.mp h with hopen | hclose
    · obtain rfl := beq_iff_eq.mp hopen
      exact .inl (by decide)
    · obtain rfl := beq_iff_eq.mp hclose
      exact .inl (by decide)
  | symbol => exact absurd hkind (by decide)

/-- Only integers and reals can start with the same character. -/
theorem startsWith_unique {kind other : Class} {c : Char} (hkind : kind ∈ Class.words)
    (hother : other ∈ Class.words) (h : kind.startsWith c = true)
    (h' : other.startsWith c = true) :
    kind = other ∨ (kind = .integer ∧ other = .real) ∨ kind = .real ∧ other = .integer := by
  rcases leading_of_startsWith hkind h with hlead | ⟨rfl, hlead⟩ <;>
    rcases leading_of_startsWith hother h' with hlead' | ⟨rfl, hlead'⟩ <;>
    rw [hlead] at hlead'
  · exact .inl hlead'
  · exact .inr (.inl ⟨hlead', rfl⟩)
  · exact .inr (.inr ⟨rfl, hlead'.symm⟩)
  · exact .inl rfl

/-- A real reaches beyond the integer that it starts with. -/
theorem integerReach_lt_realReach {c : Char} {rest : List Char} {n k : Nat}
    (hn : realReach c rest = some n) (hk : integerReach c rest = some k) : k < n := by
  rw [realReach, hk] at hn
  dsimp only at hn
  split at hn
  · split at hn <;> cases hn
    omega
  · cases hn

/-! ## Running through the classes -/

section Best

variable {first : Char} {rest : List Char}

/-- The better of the best match so far and that of another class. -/
def better (first : Char) (rest : List Char) (best : Class × Nat) (kind : Class) : Class × Nat :=
  match kind.reach first rest with
  | some length => if best.2 ≤ length then (kind, length) else best
  | none => best

theorem longest_eq_foldl :
    longest first rest = Class.words.foldl (better first rest) (.symbol, 0) :=
  rfl

/-- What wins matches as far as it is said to. -/
theorem reach_foldl_better {kinds : List Class} {best : Class × Nat}
    (h : best.1.reach first rest = some best.2) :
    (kinds.foldl (better first rest) best).1.reach first rest =
      some (kinds.foldl (better first rest) best).2 := by
  induction kinds generalizing best with
  | nil => exact h
  | cons kind kinds ih =>
    apply ih
    rw [better]
    split
    · next length hreach =>
      split
      · exact hreach
      · exact h
    · exact h

/-- The best so far stays the best where no other class reaches that far. -/
theorem foldl_better_of_lt {kinds : List Class} {best : Class × Nat}
    (h : ∀ kind ∈ kinds, ∀ length, kind.reach first rest = some length → length < best.2) :
    kinds.foldl (better first rest) best = best := by
  induction kinds with
  | nil => rfl
  | cons kind kinds ih =>
    have hbest : better first rest best kind = best := by
      rw [better]
      split
      · next length hreach =>
        have := h kind (by simp) length hreach
        rw [if_neg (by omega)]
      · rfl
    rw [List.foldl_cons, hbest]
    exact ih fun other hother => h other (List.mem_cons_of_mem _ hother)

/-- The best reaches no further than all classes do. -/
theorem foldl_better_le {kinds : List Class} {best : Class × Nat} {n : Nat} (hbest : best.2 ≤ n)
    (h : ∀ kind ∈ kinds, ∀ length, kind.reach first rest = some length → length ≤ n) :
    (kinds.foldl (better first rest) best).2 ≤ n := by
  induction kinds generalizing best with
  | nil => exact hbest
  | cons kind kinds ih =>
    refine ih ?_ fun other hother => h other (List.mem_cons_of_mem _ hother)
    rw [better]
    split
    · next length hreach =>
      split
      · exact h kind (by simp) length hreach
      · exact hbest
    · exact hbest

/-- The winner is one of the classes, or the one that was best before. -/
theorem foldl_better_mem (kinds : List Class) (best : Class × Nat) :
    (kinds.foldl (better first rest) best).1 ∈ best.1 :: kinds := by
  induction kinds generalizing best with
  | nil => exact List.mem_singleton.mpr rfl
  | cons kind kinds ih =>
    have hbest : (better first rest best kind).1 = best.1 ∨
        (better first rest best kind).1 = kind := by
      rw [better]
      split
      · split
        · exact .inr rfl
        · exact .inl rfl
      · exact .inl rfl
    have hmem := ih (better first rest best kind)
    rw [List.foldl_cons]
    rcases hbest with h | h <;> rw [h] at hmem <;> grind

/-- Single symbols win only if nothing else matches. -/
theorem reach_eq_none_of_foldl {kinds : List Class} (hkinds : .symbol ∉ kinds)
    (h : (kinds.foldl (better first rest) (.symbol, 0)).1 = .symbol) :
    ∀ kind ∈ kinds, kind.reach first rest = none := by
  induction kinds with
  | nil =>
    intro kind hkind
    cases hkind
  | cons kind kinds ih =>
    have hreach : kind.reach first rest = none := by
      rcases hreach : kind.reach first rest with _ | length
      · rfl
      · have hbest : better first rest (.symbol, 0) kind = (kind, length) := by
          rw [better, hreach]
          exact if_pos (Nat.zero_le _)
        have hmem : (kinds.foldl (better first rest) (kind, length)).1 ∈ kind :: kinds :=
          foldl_better_mem ..
        rw [List.foldl_cons, hbest] at h
        rw [h] at hmem
        exact absurd hmem hkinds
    have hbest : better first rest (.symbol, 0) kind = (.symbol, 0) := by
      rw [better, hreach]
    rw [List.foldl_cons, hbest] at h
    intro other hother
    rcases List.mem_cons.mp hother with rfl | hother
    · exact hreach
    · exact ih (fun hmem => hkinds (List.mem_cons_of_mem _ hmem)) h other hother

end Best

/-! ## The winner -/

section Longest

variable {kind : Class} {c : Char} {rest : List Char} {n : Nat}

/-- The class that wins matches as far as it is said to. -/
theorem reach_of_longest (h : longest c rest = (kind, n)) : kind.reach c rest = some n := by
  have hreach : (longest c rest).1.reach c rest = some (longest c rest).2 :=
    reach_foldl_better rfl
  rwa [h] at hreach

/-- Where a single symbol wins no other class matches. -/
theorem reach_eq_none_of_symbol (h : longest c rest = (.symbol, n)) :
    ∀ other ∈ Class.words, other.reach c rest = none :=
  reach_eq_none_of_foldl (by decide) (congrArg Prod.fst h)

/-- Where no other class matches a single symbol wins. -/
theorem longest_of_reach_eq_none (h : ∀ other ∈ Class.words, other.reach c rest = none) :
    longest c rest = (.symbol, 0) :=
  foldl_better_of_lt fun other hother length hreach => by
    rw [h other hother] at hreach
    cases hreach

/-- A class wins if it reaches further than every other. -/
theorem longest_of_lt (hkind : kind ∈ Class.words) (h : kind.reach c rest = some n)
    (hothers : ∀ other ∈ Class.words, other ≠ kind →
      ∀ length, other.reach c rest = some length → length < n) :
    longest c rest = (kind, n) := by
  obtain ⟨before, after, hwords⟩ := List.append_of_mem hkind
  have hnodup : (before ++ kind :: after).Nodup := hwords ▸ (by decide : Class.words.Nodup)
  have hne (other : Class) (hother : other ∈ before ∨ other ∈ after) : other ≠ kind := by
    rintro rfl
    grind
  have hmem (other : Class) (hother : other ∈ before ∨ other ∈ after) : other ∈ Class.words := by
    rw [hwords]
    grind
  -- the classes before it reach at most as far, so it takes the lead, and those after it less far
  have hbefore : (before.foldl (better c rest) (.symbol, 0)).2 ≤ n := by
    refine foldl_better_le (Nat.zero_le n) fun other hother length hreach => ?_
    have hlt := hothers other (hmem other (.inl hother)) (hne other (.inl hother)) length hreach
    exact Nat.le_of_lt hlt
  have hbetter : better c rest (before.foldl (better c rest) (.symbol, 0)) kind = (kind, n) := by
    rw [better, h]
    exact if_pos hbefore
  rw [longest_eq_foldl, hwords, List.foldl_append, List.foldl_cons, hbetter]
  exact foldl_better_of_lt fun other hother =>
    hothers other (hmem other (.inr hother)) (hne other (.inr hother))

/-- **A class that matches wins**, unless it is an integer that goes on as a real. -/
theorem longest_of_reach (hkind : kind ∈ Class.words) (h : kind.reach c rest = some n)
    (hreal : kind = .integer → realReach c rest = none) :
    longest c rest = (kind, n) := by
  refine longest_of_lt hkind h fun other hother hne length hlength => ?_
  have hstarts := startsWith_of_reach h
  have hstarts' := startsWith_of_reach hlength
  rcases startsWith_unique hkind hother hstarts hstarts' with rfl | ⟨rfl, rfl⟩ | ⟨rfl, rfl⟩
  · exact absurd rfl hne
  · rw [Class.reach, hreal rfl] at hlength
    cases hlength
  · exact integerReach_lt_realReach h hlength

end Longest

end StackScript.Token

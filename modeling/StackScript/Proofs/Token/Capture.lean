import StackScript.Proofs.Text.Characters
import StackScript.Token

/-!
# What an array literal extends to

`Token.capture` follows an array literal from behind its opening bracket. What it finds is said here
by counting brackets. A text in which the array stays open (`StaysOpen`) has only characters that
may stand in a literal, and no beginning of it closes more arrays than are open inside the literal.
Such a text is passed over (`capture_staysOpen`), and what ends it decides what is found
(`capture_eq_iff`): the bracket that closes the literal, a character that may not stand there, or
the end of the text.
-/

namespace StackScript.Token

/-! ## Passing over characters -/

/-- The same finding, so many characters further from the bracket. -/
def Capture.laterBy (n : Nat) : Capture → Capture
  | .closed length => .closed (length + n)
  | .invalid length c => .invalid (length + n) c
  | .unclosed => .unclosed

theorem Capture.later_laterBy (found : Capture) (n : Nat) :
    (found.laterBy n).later = found.laterBy (n + 1) := by
  cases found <;> rfl

theorem Capture.laterBy_later (found : Capture) (n : Nat) :
    found.later.laterBy n = found.laterBy (n + 1) := by
  cases found <;> simp only [later, laterBy] <;> congr 1 <;> omega

theorem Capture.laterBy_laterBy (found : Capture) (m n : Nat) :
    (found.laterBy m).laterBy n = found.laterBy (m + n) := by
  cases found <;> simp only [laterBy] <;> congr 1 <;> omega

theorem Capture.laterBy_zero (found : Capture) : found.laterBy 0 = found := by
  cases found <;> rfl

theorem capture_opening (inner : Nat) (rest : List Char) :
    capture inner ('[' :: rest) = (capture (inner + 1) rest).later := by
  rw [capture.eq_def]
  exact if_pos rfl

theorem capture_closing (inner : Nat) (rest : List Char) :
    capture (inner + 1) (']' :: rest) = (capture inner rest).later := by
  rw [capture.eq_def]
  exact (if_neg (by decide)).trans (if_pos rfl)

theorem capture_last (rest : List Char) : capture 0 (']' :: rest) = .closed 1 := by
  rw [capture.eq_def]
  exact (if_neg (by decide)).trans (if_pos rfl)

theorem capture_character {c : Char} (hcharacter : isArrayCharacter c = true) (hopen : c ≠ '[')
    (hclose : c ≠ ']') (inner : Nat) (rest : List Char) :
    capture inner (c :: rest) = (capture inner rest).later := by
  rw [capture.eq_def]
  exact (if_neg hopen).trans ((if_neg hclose).trans (if_pos hcharacter))

/-- The characters between brackets are passed over. -/
theorem capture_append {inner : Nat} {text rest : List Char}
    (h : ∀ c ∈ text, isArrayCharacter c = true ∧ c ≠ '[' ∧ c ≠ ']') :
    capture inner (text ++ rest) = (capture inner rest).laterBy text.length := by
  induction text with
  | nil => exact (Capture.laterBy_zero _).symm
  | cons c text ih =>
    obtain ⟨hcharacter, hopen, hclose⟩ := h c (by simp)
    rw [List.cons_append, capture_character hcharacter hopen hclose,
      ih fun c hc => h c (List.mem_cons_of_mem _ hc), Capture.later_laterBy, List.length_cons]

/-! ## Counting brackets -/

/-- Whether a character may stand in an array literal, its brackets included. -/
def MayStand (c : Char) : Prop :=
  c = '[' ∨ c = ']' ∨ isArrayCharacter c = true

/-- An array literal stays open all along a text, where `inner` arrays inside it are open already:
every character may stand in it, and no beginning of the text closes more arrays than that and those
it opens. -/
structure StaysOpen (inner : Nat) (text : List Char) : Prop where
  /-- the characters may stand there -/
  mayStand : ∀ c ∈ text, MayStand c
  /-- the literal is not closed -/
  notClosed : ∀ n, (text.take n).count ']' ≤ (text.take n).count '[' + inner

namespace StaysOpen

variable {inner : Nat} {c : Char} {text : List Char}

theorem nil (inner : Nat) : StaysOpen inner [] := by
  refine ⟨?_, ?_⟩
  · intro c hc
    cases hc
  · intro n
    simp

/-- A text with one character in front, for what that character does to the number of open
arrays. -/
theorem cons_iff :
    StaysOpen inner (c :: text) ↔ MayStand c ∧ (∀ c ∈ text, MayStand c) ∧
      ∀ n, (c :: text.take n).count ']' ≤ (c :: text.take n).count '[' + inner := by
  refine ⟨?_, ?_⟩
  · intro h
    refine ⟨h.mayStand c (by simp), fun d hd => h.mayStand d (by simp [hd]), ?_⟩
    intro n
    exact h.notClosed (n + 1)
  · rintro ⟨hc, htext, hcount⟩
    refine ⟨?_, ?_⟩
    · intro d hd
      rcases List.mem_cons.mp hd with rfl | hd
      · exact hc
      · exact htext d hd
    · intro n
      cases n with
      | zero => simp
      | succ n => exact hcount n

theorem opening_iff : StaysOpen inner ('[' :: text) ↔ StaysOpen (inner + 1) text := by
  have hne : '[' ≠ ']' := by decide
  rw [cons_iff]
  simp only [List.count_cons_self, List.count_cons_of_ne hne]
  refine ⟨?_, ?_⟩
  · rintro ⟨-, htext, hcount⟩
    refine ⟨htext, ?_⟩
    intro n
    have hn := hcount n
    omega
  · rintro ⟨htext, hcount⟩
    refine ⟨.inl rfl, htext, ?_⟩
    intro n
    have hn := hcount n
    omega

theorem closing_iff : StaysOpen (inner + 1) (']' :: text) ↔ StaysOpen inner text := by
  have hne : ']' ≠ '[' := by decide
  rw [cons_iff]
  simp only [List.count_cons_self, List.count_cons_of_ne hne]
  refine ⟨?_, ?_⟩
  · rintro ⟨-, htext, hcount⟩
    refine ⟨htext, ?_⟩
    intro n
    have hn := hcount n
    omega
  · rintro ⟨htext, hcount⟩
    refine ⟨.inr (.inl rfl), htext, ?_⟩
    intro n
    have hn := hcount n
    omega

/-- Where no array is open inside the literal, a closing bracket closes the literal. -/
theorem not_closing : ¬ StaysOpen 0 (']' :: text) := by
  intro h
  have hfirst := h.notClosed 1
  simp at hfirst

theorem character_iff (hcharacter : isArrayCharacter c = true) (hopen : c ≠ '[')
    (hclose : c ≠ ']') : StaysOpen inner (c :: text) ↔ StaysOpen inner text := by
  rw [cons_iff]
  simp only [List.count_cons_of_ne hopen, List.count_cons_of_ne hclose]
  refine ⟨?_, ?_⟩
  · rintro ⟨-, htext, hcount⟩
    exact ⟨htext, hcount⟩
  · rintro ⟨htext, hcount⟩
    exact ⟨.inr (.inr hcharacter), htext, hcount⟩

end StaysOpen

/-- **A text in which the literal stays open is passed over.** Behind it, those arrays are open that
were open before or are opened in it, less those that are closed in it. -/
theorem capture_staysOpen {inner : Nat} {text : List Char} (h : StaysOpen inner text)
    (rest : List Char) :
    capture inner (text ++ rest) =
      (capture (inner + text.count '[' - text.count ']') rest).laterBy text.length := by
  induction text generalizing inner with
  | nil => exact (Capture.laterBy_zero _).symm
  | cons c text ih =>
    have hopening : ']' ≠ '[' := by decide
    rw [List.cons_append, List.length_cons]
    rcases h.mayStand c (by simp) with rfl | rfl | hcharacter
    · rw [capture_opening, ih (StaysOpen.opening_iff.mp h), Capture.later_laterBy,
        List.count_cons_self, List.count_cons_of_ne hopening.symm]
      congr 2
      omega
    · cases inner with
      | zero => exact absurd h StaysOpen.not_closing
      | succ inner =>
        rw [capture_closing, ih (StaysOpen.closing_iff.mp h), Capture.later_laterBy,
          List.count_cons_self, List.count_cons_of_ne hopening]
        congr 2
        omega
    · by_cases hopen : c = '['
      · rw [hopen] at hcharacter
        cases hcharacter
      by_cases hclose : c = ']'
      · rw [hclose] at hcharacter
        cases hcharacter
      rw [capture_character hcharacter hopen hclose,
        ih ((StaysOpen.character_iff hcharacter hopen hclose).mp h), Capture.later_laterBy,
        List.count_cons_of_ne hopen, List.count_cons_of_ne hclose]

/-! ## What is found -/

/-- What there is to be found in a text that goes on inside a literal, where `inner` arrays inside
it are open. -/
inductive Finds (inner : Nat) : List Char → Capture → Prop where
  /-- the literal stays open up to a bracket that closes it -/
  | closed {inside after : List Char} (h : StaysOpen inner inside)
    (hcount : inside.count ']' = inside.count '[' + inner) :
    Finds inner (inside ++ ']' :: after) (.closed (inside.length + 1))
  /-- the literal stays open up to a character that may not stand in it -/
  | invalid {inside after : List Char} {c : Char} (h : StaysOpen inner inside)
    (hc : ¬ MayStand c) : Finds inner (inside ++ c :: after) (.invalid inside.length c)
  /-- the literal stays open to the end of the text -/
  | unclosed {text : List Char} (h : StaysOpen inner text) : Finds inner text .unclosed

/-- One more character in front, for what it does to the number of open arrays. -/
theorem Finds.cons {inner outer : Nat} {c : Char} {text : List Char} {found : Capture}
    (h : Finds inner text found)
    (hopen : ∀ inside, StaysOpen inner inside → StaysOpen outer (c :: inside))
    (hcount : ∀ inside, inside.count ']' = inside.count '[' + inner →
      (c :: inside).count ']' = (c :: inside).count '[' + outer) :
    Finds outer (c :: text) found.later := by
  cases h with
  | closed hinside hclosed => exact .closed (hopen _ hinside) (hcount _ hclosed)
  | invalid hinside hc => exact .invalid (hopen _ hinside) hc
  | unclosed htext => exact .unclosed (hopen _ htext)

/-- What is found is there. -/
theorem finds_capture (inner : Nat) (text : List Char) :
    Finds inner text (capture inner text) := by
  induction text generalizing inner with
  | nil => exact .unclosed (.nil inner)
  | cons c text ih =>
    have hne : ']' ≠ '[' := by decide
    by_cases hopen : c = '['
    · subst hopen
      rw [capture_opening]
      refine (ih (inner + 1)).cons (fun _ => StaysOpen.opening_iff.mpr) ?_
      intro inside hcount
      rw [List.count_cons_self, List.count_cons_of_ne hne.symm]
      omega
    by_cases hclose : c = ']'
    · subst hclose
      cases inner with
      | zero =>
        rw [capture_last]
        exact .closed (.nil 0) rfl
      | succ inner =>
        rw [capture_closing]
        refine (ih inner).cons (fun _ => StaysOpen.closing_iff.mpr) ?_
        intro inside hcount
        rw [List.count_cons_self, List.count_cons_of_ne hne]
        omega
    by_cases hcharacter : isArrayCharacter c = true
    · rw [capture_character hcharacter hopen hclose]
      refine (ih inner).cons (fun _ => (StaysOpen.character_iff hcharacter hopen hclose).mpr) ?_
      intro inside hcount
      rw [List.count_cons_of_ne hopen, List.count_cons_of_ne hclose, hcount]
    · have hfound : capture inner (c :: text) = .invalid 0 c := by
        rw [capture.eq_def]
        exact (if_neg hopen).trans ((if_neg hclose).trans (if_neg hcharacter))
      rw [hfound]
      exact .invalid (.nil inner) fun hc => hc.elim hopen fun hc => hc.elim hclose hcharacter

/-- What is there is found. -/
theorem capture_of_finds {inner : Nat} {text : List Char} {found : Capture}
    (h : Finds inner text found) : capture inner text = found := by
  cases h with
  | @closed inside after h hcount =>
    have hnone : inner + inside.count '[' - inside.count ']' = 0 := by omega
    rw [capture_staysOpen h, hnone, capture_last, Nat.add_comm]
    rfl
  | @invalid inside after c h hc =>
    have hopen : c ≠ '[' := fun heq => hc (.inl heq)
    have hclose : c ≠ ']' := fun heq => hc (.inr (.inl heq))
    have hcharacter : isArrayCharacter c ≠ true := fun heq => hc (.inr (.inr heq))
    rw [capture_staysOpen h, capture.eq_def]
    dsimp only
    rw [if_neg hopen, if_neg hclose, if_neg hcharacter]
    exact congrArg (Capture.invalid · c) (Nat.zero_add _)
  | unclosed h =>
    have hfound := capture_staysOpen h []
    rw [List.append_nil] at hfound
    rw [hfound, capture]
    rfl

/-- **What is found is what there is to be found.** -/
theorem capture_eq_iff {inner : Nat} {text : List Char} {found : Capture} :
    capture inner text = found ↔ Finds inner text found := by
  refine ⟨?_, capture_of_finds⟩
  rintro rfl
  exact finds_capture inner text

end StackScript.Token

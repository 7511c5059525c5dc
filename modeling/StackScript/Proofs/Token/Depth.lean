import StackScript.Proofs.Token.Cutting

/-!
# Where an array literal ends, by its depth

The *depth* of a text that follows an opening bracket is the number of arrays that are open behind
it, the literal itself included. It starts at one and changes by at most one with each character, so
it cannot become negative without having been zero before (`one_le_depth`). That is why the scanner
can do with a counter that has no sign: as long as it goes on, the counter is the depth, and there
is something to be taken from it (`exists_capture_eq_laterBy`).

Three things can come of following a literal, and the depths of the beginnings of the text together
with the characters in it decide which one does: a beginning of depth zero is come to, or before
that a character that may not stand in a literal, or the end of the text
(`literal_ends_where_depth_is_zero`).
-/

namespace StackScript.Token

/-! ## Depth -/

/-- How many arrays are open behind a text that follows an opening bracket. -/
def depth (text : List Char) : Int :=
  1 + text.count '[' - text.count ']'

section Depth

variable {text : List Char} {c : Char} {n : Nat}

/-- One more character changes the depth by one if it is a bracket. -/
theorem depth_take_add_one (h : text[n]? = some c) :
    depth (text.take (n + 1)) =
      depth (text.take n) + (if c = '[' then 1 else if c = ']' then -1 else 0) := by
  have hne : '[' ≠ ']' := by decide
  rw [List.take_add_one, h, Option.toList_some, depth, depth, List.count_append, List.count_append]
  by_cases hopen : c = '['
  · subst hopen
    rw [if_pos rfl, List.count_cons_self, List.count_cons_of_ne hne, List.count_nil, List.count_nil]
    omega
  by_cases hclose : c = ']'
  · subst hclose
    rw [if_neg hopen, if_pos rfl, List.count_cons_self, List.count_cons_of_ne hopen, List.count_nil,
      List.count_nil]
    omega
  · rw [if_neg hopen, if_neg hclose, List.count_cons_of_ne hopen, List.count_cons_of_ne hclose,
      List.count_nil, List.count_nil]
    omega

/-- **The depth does not pass over zero**: where no beginning of the text has depth zero, there is
always an array open. -/
theorem one_le_depth (h : ∀ k ≤ n, depth (text.take k) ≠ 0) : 1 ≤ depth (text.take n) := by
  induction n with
  | zero => exact Int.le_refl 1
  | succ n ih =>
    have hbefore : 1 ≤ depth (text.take n) := ih fun k hk => h k (Nat.le_succ_of_le hk)
    have hne := h (n + 1) (Nat.le_refl _)
    rcases hn : text[n]? with _ | c
    · rwa [List.take_add_one, hn, Option.toList_none, List.append_nil]
    · -- one character cannot take the depth from one to below zero
      rw [depth_take_add_one hn] at hne ⊢
      split at hne <;> split <;> omega

/-- An array literal stays open all along a text whose characters may stand in it and of which no
beginning has depth zero. -/
theorem staysOpen_take_iff :
    StaysOpen 0 (text.take n) ↔
      (∀ c ∈ text.take n, MayStand c) ∧ ∀ k ≤ n, depth (text.take k) ≠ 0 := by
  constructor
  · intro h
    refine ⟨h.mayStand, fun k hk => ?_⟩
    have hcount := h.notClosed k
    rw [List.take_take, Nat.min_eq_left hk] at hcount
    rw [depth]
    omega
  · rintro ⟨hmay, hdepth⟩
    refine ⟨hmay, fun k => ?_⟩
    have hopen : 1 ≤ depth (text.take (min k n)) :=
      one_le_depth fun j hj => hdepth j (Nat.le_trans hj (Nat.min_le_right k n))
    rw [depth] at hopen
    rw [List.take_take]
    omega

/-- **The counter is the depth.** As long as no beginning of the text has depth zero and every
character may stand in the literal, the scanner goes on, and its counter of the arrays that are open
inside the literal is one less than the depth. -/
theorem exists_capture_eq_laterBy (hn : n ≤ text.length) (hmay : ∀ c ∈ text.take n, MayStand c)
    (hdepth : ∀ k ≤ n, depth (text.take k) ≠ 0) :
    ∃ inner : Nat, depth (text.take n) = inner + 1 ∧
      capture 0 text = (capture inner (text.drop n)).laterBy n := by
  have hopen := one_le_depth hdepth
  have hcapture := capture_staysOpen (staysOpen_take_iff.mpr ⟨hmay, hdepth⟩) (text.drop n)
  rw [List.take_append_drop, List.length_take, Nat.min_eq_left hn] at hcapture
  refine ⟨_, ?_, hcapture⟩
  rw [depth] at hopen ⊢
  omega

end Depth

/-! ## The three ends -/

instance : DecidablePred MayStand := fun c =>
  inferInstanceAs (Decidable (c = '[' ∨ c = ']' ∨ isArrayCharacter c = true))

/-- The last of the first `n` characters closes the literal: no array is open any more, for the
first time, and every character up to there may stand in a literal. -/
structure ClosesAt (text : List Char) (n : Nat) : Prop where
  /-- there are so many characters -/
  le_length : n ≤ text.length
  /-- no array is open behind them -/
  depth_eq : depth (text.take n) = 0
  /-- behind fewer of them there is one open -/
  depth_ne : ∀ k < n, depth (text.take k) ≠ 0
  /-- they may stand in a literal -/
  mayStand : ∀ c ∈ text.take n, MayStand c

/-- Behind the first `n` characters comes the first one that may not stand in a literal, and the
literal is not closed before it. -/
structure BreaksAt (text : List Char) (n : Nat) (c : Char) : Prop where
  /-- that is the character -/
  getElem?_eq : text[n]? = some c
  /-- it may not stand in a literal -/
  not_mayStand : ¬ MayStand c
  /-- those before it may -/
  mayStand : ∀ d ∈ text.take n, MayStand d
  /-- an array is open up to there -/
  depth_ne : ∀ k ≤ n, depth (text.take k) ≠ 0

/-- The literal is not closed in all of the text, and every character may stand in it. -/
structure NeverCloses (text : List Char) : Prop where
  /-- the characters may stand in a literal -/
  mayStand : ∀ c ∈ text, MayStand c
  /-- an array is open all along -/
  depth_ne : ∀ k, depth (text.take k) ≠ 0

section Ends

variable {text : List Char} {n : Nat} {c : Char}

/-- A text around one of its characters. -/
theorem eq_take_append_cons (h : text[n]? = some c) :
    text = text.take n ++ c :: text.drop (n + 1) := by
  obtain ⟨hn, rfl⟩ := List.getElem?_eq_some_iff.mp h
  rw [List.getElem_cons_drop, List.take_append_drop]

/-- A text of which a beginning is known, up to a character that is known. -/
theorem getElem?_length_append (inside after : List Char) (c : Char) :
    (inside ++ c :: after)[inside.length]? = some c := by
  rw [List.getElem?_append_right (Nat.le_refl _), Nat.sub_self, List.getElem?_cons_zero]

/-- Behind the last but one character only the literal itself is open, and the last one closes
it. -/
theorem ClosesAt.exists_closing (h : ClosesAt text n) :
    ∃ m, n = m + 1 ∧ text[m]? = some ']' ∧ depth (text.take m) = 1 := by
  obtain ⟨m, rfl⟩ : ∃ m, n = m + 1 := by
    refine Nat.exists_eq_succ_of_ne_zero ?_
    rintro rfl
    cases h.depth_eq
  have hopen : 1 ≤ depth (text.take m) :=
    one_le_depth fun k hk => h.depth_ne k (Nat.lt_succ_of_le hk)
  have hlast := List.getElem?_eq_getElem (Nat.lt_of_succ_le h.le_length)
  have hzero := h.depth_eq
  rw [depth_take_add_one hlast] at hzero
  refine ⟨m, rfl, ?_⟩
  split at hzero
  · omega
  split at hzero
  · next hclose => exact ⟨by rw [hlast, hclose], by omega⟩
  · omega

/-- The literal is found to be closed where its depth is zero for the first time. -/
theorem capture_eq_closed_iff : capture 0 text = .closed n ↔ ClosesAt text n := by
  rw [capture_eq_iff]
  constructor
  · intro h
    cases h with
    | @closed inside after hinside hcount =>
      have htake : (inside ++ ']' :: after).take inside.length = inside := List.take_left
      have hlast := getElem?_length_append inside after ']'
      rw [← htake] at hinside
      obtain ⟨hmay, hdepth⟩ := staysOpen_take_iff.mp hinside
      refine ⟨?_, ?_, fun k hk => hdepth k (Nat.le_of_lt_succ hk), ?_⟩
      · simp
      · rw [depth_take_add_one hlast, htake, depth, if_neg (by decide), if_pos rfl]
        omega
      · intro d hd
        rw [List.take_add_one, hlast] at hd
        rcases List.mem_append.mp hd with hd | hd
        · exact hmay d hd
        · exact .inr (.inl (List.mem_singleton.mp hd))
  · intro h
    obtain ⟨m, rfl, hlast, hone⟩ := h.exists_closing
    have hinside : StaysOpen 0 (text.take m) :=
      staysOpen_take_iff.mpr
        ⟨fun d hd => h.mayStand d ((List.take_prefix_take_left (Nat.le_succ m)).subset hd),
          fun k hk => h.depth_ne k (Nat.lt_succ_of_le hk)⟩
    have hcount : (text.take m).count ']' = (text.take m).count '[' + 0 := by
      rw [depth] at hone
      omega
    have hfinds : Finds 0 (text.take m ++ ']' :: text.drop (m + 1)) _ := .closed hinside hcount
    rwa [← eq_take_append_cons hlast, List.length_take,
      Nat.min_eq_left (Nat.le_of_succ_le h.le_length)] at hfinds

/-- A character is found to be the first that may not stand in the literal where it is that. -/
theorem capture_eq_invalid_iff : capture 0 text = .invalid n c ↔ BreaksAt text n c := by
  rw [capture_eq_iff]
  constructor
  · intro h
    cases h with
    | @invalid inside after _ hinside hc =>
      have htake : (inside ++ c :: after).take inside.length = inside := List.take_left
      rw [← htake] at hinside
      obtain ⟨hmay, hdepth⟩ := staysOpen_take_iff.mp hinside
      exact ⟨getElem?_length_append inside after c, hc, hmay, hdepth⟩
  · rintro ⟨hget, hc, hmay, hdepth⟩
    have hfinds : Finds 0 (text.take n ++ c :: text.drop (n + 1)) _ :=
      .invalid (staysOpen_take_iff.mpr ⟨hmay, hdepth⟩) hc
    obtain ⟨hn, -⟩ := List.getElem?_eq_some_iff.mp hget
    rwa [← eq_take_append_cons hget, List.length_take, Nat.min_eq_left (Nat.le_of_lt hn)] at hfinds

/-- The literal is found to be open to the end where it is. -/
theorem capture_eq_unclosed_iff : capture 0 text = .unclosed ↔ NeverCloses text := by
  have hall : StaysOpen 0 text ↔ NeverCloses text := by
    have hend : ∀ {k}, text.length ≤ k → text.take k = text := List.take_of_length_le
    constructor
    · intro h
      rw [← List.take_length (l := text)] at h
      obtain ⟨hmay, hdepth⟩ := staysOpen_take_iff.mp h
      rw [List.take_length] at hmay
      refine ⟨hmay, fun k => ?_⟩
      rcases Nat.le_total k text.length with hk | hk
      · exact hdepth k hk
      · rw [hend hk, ← List.take_length (l := text)]
        exact hdepth text.length (Nat.le_refl _)
    · intro h
      rw [← List.take_length (l := text)]
      exact staysOpen_take_iff.mpr
        ⟨fun d hd => h.mayStand d (List.mem_of_mem_take hd), fun k _ => h.depth_ne k⟩
  rw [capture_eq_iff, ← hall]
  constructor
  · rintro ⟨h⟩
    assumption
  · exact .unclosed

end Ends

/-! ## What is scanned -/

section Scanned

variable {text : List Char} {n : Nat} {c : Char} (offset : Nat)

/-- A literal that is closed is a token, and scanning goes on behind it. -/
theorem scanFrom_of_closesAt (h : ClosesAt text n) :
    scanFrom offset ('[' :: text) =
      (scanFrom (offset + Text.byteLength ('[' :: text.take n)) (text.drop n)).map
        (whole .arrayLiteral offset ('[' :: text.take n) :: ·) := by
  have hlength : (text.take n).length = n := by
    rw [List.length_take, Nat.min_eq_left h.le_length]
  have hcapture : capture 0 (text.take n ++ text.drop n) = .closed (text.take n).length := by
    rw [List.take_append_drop, hlength]
    exact capture_eq_closed_iff.mpr h
  have htext : '[' :: text = '[' :: text.take n ++ text.drop n := by
    rw [List.cons_append, List.take_append_drop]
  rw [htext, scanFrom_arrayLiteral hcapture]

/-- A literal that is not closed is an error. -/
theorem scanFrom_of_malformed? {e : ParseError} (h : malformed? offset '[' text = some e) :
    scanFrom offset ('[' :: text) = .error e :=
  scanFrom_malformed (malformed?_eq_some_iff.mp h)

end Scanned

/-- **A literal ends where its depth is zero.** For every text behind an opening bracket:

* it is captured as a literal exactly if it has a beginning of depth zero and all characters up to
  the end of the first such beginning may stand in a literal; captured is that beginning, scanning
  goes on behind it, and the token covers it and the bracket;
* if a character that may not stand in a literal comes before the depth is zero, the error names the
  first such character and covers what stands in front of it;
* if there is neither, the error is that the literal is not closed, and it covers all of the text;
* one of the three is the case;
* up to the end, whichever it is, the depth is at least one, and the counter of the scanner is the
  depth. -/
theorem literal_ends_where_depth_is_zero (offset : Nat) (text : List Char) :
    let scanned := scanFrom offset ('[' :: text)
    ((∃ n, capture 0 text = .closed n) ↔ ∃ n, ClosesAt text n) ∧
    (∀ n, ClosesAt text n → capture 0 text = .closed n ∧
      scanned = (scanFrom (offset + Text.byteLength ('[' :: text.take n)) (text.drop n)).map
        (whole .arrayLiteral offset ('[' :: text.take n) :: ·)) ∧
    (∀ n c, BreaksAt text n c → capture 0 text = .invalid n c ∧
      scanned = .error
        ⟨.arrayCharacter c, ⟨offset, offset + Text.byteLength ('[' :: text.take n)⟩⟩) ∧
    (NeverCloses text → capture 0 text = .unclosed ∧
      scanned = .error ⟨.arrayNotClosed, ⟨offset, offset + Text.byteLength ('[' :: text)⟩⟩) ∧
    ((∃ n, ClosesAt text n) ∨ (∃ n c, BreaksAt text n c) ∨ NeverCloses text) ∧
    ∀ n ≤ text.length, (∀ c ∈ text.take n, MayStand c) → (∀ k ≤ n, depth (text.take k) ≠ 0) →
      ∃ inner : Nat, depth (text.take n) = inner + 1 ∧
        capture 0 text = (capture inner (text.drop n)).laterBy n := by
  refine ⟨exists_congr fun n => capture_eq_closed_iff, fun n h => ?_, fun n c h => ?_, fun h => ?_,
    ?_, fun n => exists_capture_eq_laterBy⟩
  · exact ⟨capture_eq_closed_iff.mpr h, scanFrom_of_closesAt offset h⟩
  · have hcapture := capture_eq_invalid_iff.mpr h
    refine ⟨hcapture, scanFrom_of_malformed? offset ?_⟩
    rw [malformed?, if_pos rfl, hcapture]
  · have hcapture := capture_eq_unclosed_iff.mpr h
    refine ⟨hcapture, scanFrom_of_malformed? offset ?_⟩
    rw [malformed?, if_pos rfl, hcapture]
  · rcases hcapture : capture 0 text with n | ⟨n, c⟩ | _
    · exact .inl ⟨n, capture_eq_closed_iff.mp hcapture⟩
    · exact .inr (.inl ⟨n, c, capture_eq_invalid_iff.mp hcapture⟩)
    · exact .inr (.inr (capture_eq_unclosed_iff.mp hcapture))

/-- A brace behind the literal does not matter, and one within it does, wherever the brackets are.
The blank between the brackets takes two bytes. -/
theorem literal_ends_where_depth_is_zero_of_braces :
    let closed := ['[', 'a', ']', '\u00a0', ']', '\x7d']
    let broken := ['[', 'a', ']', '\u00a0', '\x7d', ']']
    ClosesAt closed 5 ∧ BreaksAt broken 4 '\x7d' ∧
      scanFrom 0 ('[' :: closed) =
        .ok [⟨.arrayLiteral, "[[a]\u00a0]", ⟨0, 7⟩⟩, ⟨.braces, "\x7d", ⟨7, 8⟩⟩] ∧
      scanFrom 0 ('[' :: broken) = .error ⟨.arrayCharacter '\x7d', ⟨0, 6⟩⟩ := by
  intro closed broken
  -- the instance is named, since another one would try all characters there are
  have hstand : ∀ c ∈ closed.take 5, MayStand c :=
    @of_decide_eq_true _ (List.decidableBAll _ _) rfl
  have hcloses : ClosesAt closed 5 := ⟨by decide, by decide, by decide, hstand⟩
  have hbreaks : BreaksAt broken 4 '\x7d' :=
    ⟨rfl, by decide, fun c hc => hstand c (List.mem_append_left [']'] hc), by decide⟩
  obtain ⟨-, hclosed, -⟩ := literal_ends_where_depth_is_zero 0 closed
  obtain ⟨-, -, hbroken, -⟩ := literal_ends_where_depth_is_zero 0 broken
  have hbrace : scanFrom 7 ['\x7d'] = .ok [⟨.braces, "\x7d", ⟨7, 8⟩⟩] := by decide +kernel
  refine ⟨hcloses, hbreaks, (hclosed 5 hcloses).2.trans ?_, (hbroken 4 _ hbreaks).2⟩
  exact congrArg (Except.map _) hbrace

end StackScript.Token

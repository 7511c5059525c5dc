import StackScript.NumberTree.Literal
import StackScript.Proofs.Token.Capture
import StackScript.Proofs.Token.Scan

/-!
# Array literals, written and read

A tree of finite numbers is written as an array literal that is scanned as one token
(`capture_spaced`) and reads back as the same tree (`ofLiteral_spaced`). Both are shown for a tree
that stands anywhere inside a literal, with the arrays around it still open, by induction on the
tree.

What is read from a literal contains no NaN (`isNaN_of_ofLiteral`).
-/

namespace StackScript

/-! ## The numbers in a tree -/

namespace NumberTree

mutual

/-- The numbers in a tree, from left to right. -/
def numbers : NumberTree → List Number
  | .leaf n => [n]
  | .node items => numbersAll items

/-- The numbers in several trees, from left to right. -/
def numbersAll : List NumberTree → List Number
  | [] => []
  | tree :: rest => tree.numbers ++ numbersAll rest

end

theorem mem_numbersAll {items : List NumberTree} {n : Number} :
    n ∈ numbersAll items ↔ ∃ tree ∈ items, n ∈ tree.numbers := by
  induction items with
  | nil => simp [numbersAll]
  | cons tree rest ih => simp [numbersAll, ih]

end NumberTree

/-! ## The characters of numbers -/

namespace Number

/-- A number is written with digits, a minus sign in front, and a point. -/
theorem mem_chars {n : Number} (h : n.IsFinite) {c : Char} (hc : c ∈ n.chars) :
    c.isDigit = true ∨ c = '-' ∨ c = '.' := by
  obtain ⟨negative, hcases⟩ := chars_cases h
  have hsigned {text : List Char} (hc : c ∈ signed negative text)
      (htext : c ∈ text → c.isDigit = true ∨ c = '.') : c.isDigit = true ∨ c = '-' ∨ c = '.' := by
    cases negative with
    | false => exact (htext hc).imp_right .inr
    | true =>
      rcases List.mem_cons.mp hc with rfl | hc
      · exact .inr (.inl rfl)
      · exact (htext hc).imp_right .inr
  rcases hcases with ⟨digits, hdigits, hchars⟩ | ⟨whole, fraction, hwhole, hfraction, hchars⟩ <;>
    rw [hchars] at hc
  · exact hsigned hc fun hc => .inl ((isDigits_iff.mp hdigits).2 c hc)
  · refine hsigned hc fun hc => ?_
    rcases List.mem_append.mp hc with hc | hc
    · exact .inl ((isDigits_iff.mp hwhole).2 c hc)
    rcases List.mem_cons.mp hc with rfl | hc
    · exact .inr rfl
    · exact .inl ((isDigits_iff.mp hfraction).2 c hc)

theorem chars_ne_nil {n : Number} (h : n.IsFinite) : n.chars ≠ [] := by
  intro hnil
  have hread := read_chars h
  rw [hnil] at hread
  cases hread

end Number

/-! ## Scanning a literal as a token -/

namespace Token

theorem capture_number {n : Number} (h : n.IsFinite) (inner : Nat) (rest : List Char) :
    capture inner (n.chars ++ rest) = (capture inner rest).laterBy n.chars.length := by
  refine capture_append fun c hc => ?_
  rcases Number.mem_chars h hc with hdigit | rfl | rfl
  · refine ⟨?_, Text.ne_of_kind hdigit rfl, Text.ne_of_kind hdigit rfl⟩
    rw [isArrayCharacter, Text.isAlphanum_of_isDigit hdigit]
    rfl
  · decide
  · decide

end Token

namespace NumberTree

open Token (capture Capture)

mutual

/-- A tree is passed over, brackets and all. -/
theorem capture_chars : (tree : NumberTree) → (∀ n ∈ tree.numbers, n.IsFinite) →
    ∀ (inner : Nat) (rest : List Char),
      capture inner (tree.chars ++ rest) = (capture inner rest).laterBy tree.chars.length
  | .leaf n, h, inner, rest => Token.capture_number (h n (List.mem_singleton.mpr rfl)) inner rest
  | .node items, h, inner, rest => by
    rw [chars, List.cons_append, List.cons_append, List.append_assoc, Token.capture_opening,
      capture_spaced items h, List.singleton_append, Token.capture_closing, Capture.laterBy_later,
      Capture.later_laterBy, List.length_cons, List.length_append, List.length_singleton]

/-- Trees with spaces between them are passed over. -/
theorem capture_spaced : (items : List NumberTree) → (∀ n ∈ numbersAll items, n.IsFinite) →
    ∀ (inner : Nat) (rest : List Char),
      capture inner (spaced items ++ rest) = (capture inner rest).laterBy (spaced items).length
  | [], _, inner, rest => (Capture.laterBy_zero _).symm
  | [tree], h, inner, rest =>
    capture_chars tree (fun n hn => h n (List.mem_append_left _ hn)) inner rest
  | tree :: next :: items, h, inner, rest => by
    rw [spaced, List.append_assoc, List.cons_append,
      capture_chars tree fun n hn => h n (List.mem_append_left _ hn),
      Token.capture_character (by decide) (by decide) (by decide),
      capture_spaced (next :: items) fun n hn => h n (List.mem_append_right _ hn),
      Capture.later_laterBy, Capture.laterBy_laterBy, List.length_append, List.length_cons,
      Nat.add_comm]

end

/-- **A literal is scanned to its closing bracket.** -/
theorem capture_literal {items : List NumberTree} (h : ∀ n ∈ numbersAll items, n.IsFinite)
    (rest : List Char) :
    capture 0 (spaced items ++ [']'] ++ rest) = .closed (spaced items ++ [']']).length := by
  rw [List.append_assoc, capture_spaced items h, List.singleton_append, Token.capture_last,
    List.length_append, List.length_singleton, Nat.add_comm]
  rfl

end NumberTree

/-! ## Taking a literal apart -/

namespace ArrayToken

/-- Whether a word ends where this follows: at a blank, at a bracket, or at the end. -/
def EndsWord (rest : List Char) : Prop :=
  ∀ c, rest.head? = some c → isWordCharacter c = false

theorem endsWord_cons {c : Char} {rest : List Char} (h : isWordCharacter c = false) :
    EndsWord (c :: rest) := by
  intro d hd
  obtain rfl := Option.some.inj hd
  exact h

section Scan

variable {offset : Nat} {word rest : List Char}

theorem scanFrom_nil : scanFrom offset [] = [] := by
  rw [scanFrom.eq_def]

theorem scanFrom_blank {c : Char} (h : Text.isBlank c = true) :
    scanFrom offset (c :: rest) = scanFrom (offset + c.utf8Size) rest := by
  rw [scanFrom.eq_def]
  exact if_pos h

theorem scanFrom_opening :
    scanFrom offset ('[' :: rest) =
      ofChars .opening offset ['['] :: scanFrom (offset + 1) rest := by
  rw [scanFrom.eq_def]
  dsimp only
  rw [if_neg (by decide), if_pos rfl]
  rfl

theorem scanFrom_closing :
    scanFrom offset (']' :: rest) =
      ofChars .closing offset [']'] :: scanFrom (offset + 1) rest := by
  rw [scanFrom.eq_def]
  dsimp only
  rw [if_neg (by decide), if_neg (by decide), if_pos rfl]
  rfl

theorem scanFrom_word (hne : word ≠ []) (hword : ∀ c ∈ word, isWordCharacter c = true)
    (hrest : EndsWord rest) :
    scanFrom offset (word ++ rest) =
      ofChars (if isNumberWord word then .number else .other) offset word ::
        scanFrom (offset + Text.byteLength word) rest := by
  cases word with
  | nil => exact absurd rfl hne
  | cons c more =>
    have hc := hword c (by simp)
    have hmore : (more ++ rest).takeWhile isWordCharacter = more :=
      Text.takeWhile_append (fun d hd => hword d (List.mem_cons_of_mem _ hd)) hrest
    rw [isWordCharacter, Bool.and_eq_true, Bool.and_eq_true, Bool.not_eq_true', bne_iff_ne,
      bne_iff_ne] at hc
    rw [List.cons_append, scanFrom.eq_def]
    dsimp only
    rw [if_neg (Bool.eq_false_iff.mp hc.1.1), if_neg hc.1.2, if_neg hc.2, hmore,
      List.drop_left]

end Scan

/-- The text of a number is a word that counts as a number. -/
theorem isNumberWord_chars {n : Number} (h : n.IsFinite) : isNumberWord n.chars = true := by
  have hword {text more : List Char} (htext : Number.isDigits text = true)
      (hmore : ∀ c ∈ more, (c.isDigit || c == '.') = true) (negative : Bool) :
      isNumberWord (Number.signed negative (text ++ more)) = true := by
    rw [isNumberWord, Number.splitSign_signed (Number.head?_ne_of_isDigits htext)]
    obtain ⟨hne, hall⟩ := Number.isDigits_iff.mp htext
    cases text with
    | nil => exact absurd rfl hne
    | cons first text =>
      dsimp only [List.cons_append]
      rw [hall first (by simp), Bool.true_and, List.all_eq_true]
      intro c hc
      rcases List.mem_append.mp hc with hc | hc
      · rw [hall c (List.mem_cons_of_mem _ hc), Bool.true_or]
      · exact hmore c hc
  obtain ⟨negative, ⟨digits, hdigits, hchars⟩ | ⟨whole, fraction, hwhole, hfraction, hchars⟩⟩ :=
    Number.chars_cases h
  · rw [hchars, ← List.append_nil digits]
    exact hword hdigits (by simp) negative
  · rw [hchars]
    refine hword hwhole (fun c hc => ?_) negative
    rcases List.mem_cons.mp hc with rfl | hc
    · rfl
    · rw [(Number.isDigits_iff.mp hfraction).2 c hc, Bool.true_or]

theorem isWordCharacter_of_mem_chars {n : Number} (h : n.IsFinite) :
    ∀ c ∈ n.chars, isWordCharacter c = true := by
  intro c hc
  rcases Number.mem_chars h hc with hdigit | rfl | rfl
  · have hblank := Text.isBlank_of_isAlphanum (Text.isAlphanum_of_isDigit hdigit)
    rw [isWordCharacter, hblank, bne_iff_ne.mpr (Text.ne_of_kind hdigit rfl),
      bne_iff_ne.mpr (Text.ne_of_kind hdigit rfl)]
    rfl
  · decide
  · decide

end ArrayToken

/-! ## Reading a literal -/

namespace NumberTree

open ArrayToken (EndsWord)

/-- Reads on inside an array, in the text that follows. -/
def readFrom (outer : List OpenArray) (inner : OpenArray) (offset : Nat) (text : List Char) :
    Except ParseError (List NumberTree) :=
  readInside outer inner (ArrayToken.scanFrom offset text)

section Read

variable {outer : List OpenArray} {inner around : OpenArray} {offset : Nat} {rest : List Char}

theorem readFrom_blank {c : Char} (h : Text.isBlank c = true) :
    readFrom outer inner offset (c :: rest) =
      readFrom outer inner (offset + c.utf8Size) rest := by
  rw [readFrom, readFrom, ArrayToken.scanFrom_blank h]

theorem readFrom_opening :
    ∃ span, readFrom outer inner offset ('[' :: rest) =
      readFrom (inner :: outer) ⟨span, []⟩ (offset + 1) rest := by
  rw [readFrom, ArrayToken.scanFrom_opening]
  exact ⟨_, rfl⟩

theorem readFrom_closing :
    readFrom (around :: outer) inner offset (']' :: rest) =
      readFrom outer { around with read := .node inner.read.reverse :: around.read } (offset + 1)
        rest := by
  rw [readFrom, ArrayToken.scanFrom_closing]
  rfl

/-- Only what counts as a number is one. -/
theorem kind_of_readNumber {token : ArrayToken} {n : Number} (h : readNumber token = .ok n) :
    token.kind = .number := by
  obtain ⟨kind, text, span⟩ := token
  rw [readNumber] at h
  cases kind <;> cases hread : Number.read text.toList <;> rw [hread] at h <;> first | rfl | cases h

/-- A token that none of the ways to close an array applies to closes none. -/
theorem kind_ne_closing {token : ArrayToken} {rest : List ArrayToken}
    (hinner : ∀ around outer', token.kind = .closing → outer = around :: outer' → False)
    (hlast : token.kind = .closing → outer = [] → rest = [] → False)
    (hextra : ∀ extra tail, token.kind = .closing → outer = [] → rest = extra :: tail → False) :
    token.kind ≠ .closing := by
  intro hkind
  cases outer with
  | cons around outer => exact hinner around outer hkind rfl
  | nil =>
    cases rest with
    | nil => exact hlast hkind rfl rfl
    | cons extra tail => exact hextra extra tail hkind rfl rfl

theorem readInside_number {token : ArrayToken} {tokens : List ArrayToken} {n : Number}
    (hkind : token.kind = .number) (hread : readNumber token = .ok n) :
    readInside outer inner (token :: tokens) =
      readInside outer { inner with read := .leaf n :: inner.read } tokens := by
  obtain ⟨kind, text, span⟩ := token
  obtain rfl : kind = .number := hkind
  rw [readInside.eq_def]
  dsimp only
  rw [hread]

/-- An element that is no number is an error. -/
theorem readInside_error {token : ArrayToken} {tokens : List ArrayToken} {e : ParseError}
    (hopen : token.kind ≠ .opening) (hclose : token.kind ≠ .closing)
    (h : readNumber token = .error e) :
    readInside outer inner (token :: tokens) = .error e := by
  obtain ⟨kind, text, span⟩ := token
  rw [readInside.eq_def]
  cases kind with
  | opening => exact absurd rfl hopen
  | closing => exact absurd rfl hclose
  | number | other =>
    dsimp only
    rw [h]

/-- A number is read as an element of the array that it stands in. -/
theorem readFrom_number {n : Number} (h : n.IsFinite) (hrest : EndsWord rest) :
    readFrom outer inner offset (n.chars ++ rest) =
      readFrom outer { inner with read := .leaf n :: inner.read }
        (offset + Text.byteLength n.chars) rest := by
  rw [readFrom, ArrayToken.scanFrom_word (Number.chars_ne_nil h)
    (ArrayToken.isWordCharacter_of_mem_chars h) hrest, ArrayToken.isNumberWord_chars h, if_pos rfl]
  have hread : readNumber (ArrayToken.ofChars .number offset n.chars) = .ok n := by
    rw [readNumber, ArrayToken.ofChars]
    dsimp only
    rw [String.toList_ofList, Number.read_chars h]
  exact readInside_number rfl hread

end Read

mutual

/-- A tree is read as an element of the array that it stands in. -/
theorem readFrom_chars : (tree : NumberTree) → (∀ n ∈ tree.numbers, n.IsFinite) →
    ∀ (outer : List OpenArray) (inner : OpenArray) (offset : Nat) (rest : List Char),
      EndsWord rest →
      readFrom outer inner offset (tree.chars ++ rest) =
        readFrom outer { inner with read := tree :: inner.read }
          (offset + Text.byteLength tree.chars) rest
  | .leaf n, h, outer, inner, offset, rest, hrest =>
    readFrom_number (h n (List.mem_singleton.mpr rfl)) hrest
  | .node items, h, outer, inner, offset, rest, _ => by
    have hclose : EndsWord (']' :: rest) := ArrayToken.endsWord_cons rfl
    rw [chars, List.cons_append, List.cons_append, List.append_assoc, List.singleton_append]
    obtain ⟨span, hopening⟩ := readFrom_opening
    rw [hopening, readFrom_spaced items h _ _ _ _ hclose, readFrom_closing, List.append_nil,
      List.reverse_reverse, Text.byteLength_cons, Text.byteLength_append, Nat.add_assoc,
      Nat.add_assoc]
    rfl

/-- Trees with spaces between them are read as elements of the array that they stand in. -/
theorem readFrom_spaced : (items : List NumberTree) → (∀ n ∈ numbersAll items, n.IsFinite) →
    ∀ (outer : List OpenArray) (inner : OpenArray) (offset : Nat) (rest : List Char),
      EndsWord rest →
      readFrom outer inner offset (spaced items ++ rest) =
        readFrom outer { inner with read := items.reverse ++ inner.read }
          (offset + Text.byteLength (spaced items)) rest
  | [], _, outer, inner, offset, rest, _ => rfl
  | [tree], h, outer, inner, offset, rest, hrest =>
    readFrom_chars tree (fun n hn => h n (List.mem_append_left _ hn)) outer inner offset rest hrest
  | tree :: next :: items, h, outer, inner, offset, rest, hrest => by
    have hspace : EndsWord (' ' :: (spaced (next :: items) ++ rest)) :=
      ArrayToken.endsWord_cons rfl
    have hread : (tree :: next :: items).reverse ++ inner.read =
        (next :: items).reverse ++ tree :: inner.read := by
      rw [List.reverse_cons, List.append_assoc]
      rfl
    rw [spaced, List.append_assoc, List.cons_append,
      readFrom_chars tree (fun n hn => h n (List.mem_append_left _ hn)) _ _ _ _ hspace,
      readFrom_blank (by decide),
      readFrom_spaced (next :: items) (fun n hn => h n (List.mem_append_right _ hn)) _ _ _ _ hrest,
      hread, Text.byteLength_append, Text.byteLength_cons, Nat.add_assoc, Nat.add_assoc]

end

/-- **A literal of finite numbers reads back** as the trees that it was written from. -/
theorem ofLiteral_spaced {items : List NumberTree} (h : ∀ n ∈ numbersAll items, n.IsFinite)
    (offset : Nat) :
    ofLiteral (String.ofList (chars (.node items))) offset = .ok items := by
  have hclose : EndsWord [']'] := ArrayToken.endsWord_cons rfl
  have hend (inner : OpenArray) (offset : Nat) :
      readFrom [] inner offset [']'] = .ok inner.read.reverse := by
    rw [readFrom, ArrayToken.scanFrom_closing, ArrayToken.scanFrom.eq_def]
    rfl
  have hinside (span : Span) :
      readFrom [] ⟨span, []⟩ (offset + 1) (spaced items ++ [']']) = .ok items := by
    rw [readFrom_spaced items h _ _ _ _ hclose, hend, List.append_nil, List.reverse_reverse]
  rw [ofLiteral, ArrayToken.scan, String.toList_ofList, chars, List.cons_append,
    ArrayToken.scanFrom_opening]
  exact hinside _

/-! ## What is read -/

/-- Whether no number in the trees is NaN. -/
def NoNaN (items : List NumberTree) : Prop :=
  ∀ n ∈ numbersAll items, n.isNaN = false

theorem NoNaN.nil : NoNaN [] := by
  intro n hn
  cases hn

theorem NoNaN.cons {tree : NumberTree} {items : List NumberTree}
    (htree : ∀ n ∈ tree.numbers, n.isNaN = false) (h : NoNaN items) : NoNaN (tree :: items) := by
  intro n hn
  rcases List.mem_append.mp hn with hn | hn
  · exact htree n hn
  · exact h n hn

theorem NoNaN.reverse {items : List NumberTree} (h : NoNaN items) : NoNaN items.reverse := by
  intro n hn
  obtain ⟨tree, htree, hn⟩ := mem_numbersAll.mp hn
  exact h n (mem_numbersAll.mpr ⟨tree, List.mem_reverse.mp htree, hn⟩)

theorem isNaN_of_readNumber {token : ArrayToken} {n : Number} (h : readNumber token = .ok n) :
    n.isNaN = false := by
  rw [readNumber.eq_def] at h
  split at h
  · next hread =>
    cases h
    exact Number.isNaN_of_read hread
  · cases h
  · cases h

/-- Reading on adds no NaN to what was read before. -/
theorem noNaN_of_readInside {outer : List OpenArray} {inner : OpenArray}
    {tokens : List ArrayToken} {items : List NumberTree}
    (h : readInside outer inner tokens = .ok items)
    (houter : ∀ array ∈ outer, NoNaN array.read) (hinner : NoNaN inner.read) : NoNaN items := by
  fun_induction readInside outer inner tokens with
  | case1 => cases h
  | case2 outer inner token rest hopening ih =>
    refine ih h (fun array harray => ?_) .nil
    rcases List.mem_cons.mp harray with rfl | harray
    · exact hinner
    · exact houter array harray
  | case3 inner token rest around outer hclosing ih =>
    refine ih h (fun array harray => houter array (List.mem_cons_of_mem _ harray)) ?_
    exact .cons hinner.reverse (houter around (List.mem_cons_self ..))
  | case4 inner token hclosing =>
    cases h
    exact hinner.reverse
  | case5 => cases h
  | case6 outer inner token rest n hread _ _ _ _ ih =>
    refine ih h houter (.cons (fun m hm => ?_) hinner)
    obtain rfl := List.mem_singleton.mp hm
    exact isNaN_of_readNumber hread
  | case7 => cases h

/-- **No literal is read as an array with a NaN in it.** -/
theorem noNaN_of_ofLiteral {literal : String} {offset : Nat} {items : List NumberTree}
    (h : ofLiteral literal offset = .ok items) : NoNaN items := by
  rw [ofLiteral] at h
  split at h
  · cases h
  · split at h
    · exact noNaN_of_readInside h (fun _ harray => by cases harray) .nil
    · cases h

end NumberTree

end StackScript

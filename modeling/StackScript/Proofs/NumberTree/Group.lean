import StackScript.Proofs.Nesting
import StackScript.Proofs.NumberTree.Literal
import StackScript.Proofs.Token.Language

/-!
# The brackets of an array literal

An array literal is looked at twice: `Token.capture` follows its brackets to find where it ends, and
`ArrayToken.scan` cuts it into tokens later. The second sees the brackets that the first has counted
and no others (`brackets_scanFrom`), so what was captured as one literal is cut into one group of
matching brackets (`isGroup_scanFrom`).

Reading such a group never runs out of tokens and leaves none over. Either every token is read as
one piece of the tree, written out (`reads_of_readInside`), or one that is no bracket stands for no
number (`exists_of_readInside`).
-/

namespace StackScript

/-! ## Groups of brackets -/

namespace ArrayToken

/-- The bracket that a token of this class is, if it is one. -/
def Class.bracket? : Class → Option Char
  | .opening => some '['
  | .closing => some ']'
  | .number | .other => none

/-- The brackets among the tokens, from left to right. -/
def brackets (tokens : List ArrayToken) : List Char :=
  tokens.filterMap (·.kind.bracket?)

/-- The brackets of a literal as what opens and closes. -/
def bracketing : Bracketing ArrayToken where
  opens token := token.kind == .opening
  closes token := token.kind == .closing
  exclusive {token} h := by
    rw [eq_of_beq h]
    rfl

/-- The brackets among the tokens are paired. No beginning closes more arrays than it opens, so
every closing bracket has one to close; and the whole closes as many as it opens, so none stays
open. -/
abbrev IsPaired (tokens : List ArrayToken) : Prop :=
  bracketing.IsPaired tokens

/-- The tokens are one group of matching brackets: the first one opens an array, the last one closes
it, and the brackets between them are paired. -/
inductive IsGroup : List ArrayToken → Prop where
  /-- an array with paired brackets inside -/
  | intro {first last : ArrayToken} {inside : List ArrayToken} (hfirst : first.kind = .opening)
    (hinside : IsPaired inside) (hlast : last.kind = .closing) :
    IsGroup (first :: (inside ++ [last]))

section Count

variable {token : ArrayToken} (rest : List ArrayToken)

theorem brackets_append (before after : List ArrayToken) :
    brackets (before ++ after) = brackets before ++ brackets after :=
  List.filterMap_append

theorem brackets_opening (h : token.kind = .opening) :
    brackets (token :: rest) = '[' :: brackets rest :=
  List.filterMap_cons_some (by rw [h]; rfl)

theorem brackets_closing (h : token.kind = .closing) :
    brackets (token :: rest) = ']' :: brackets rest :=
  List.filterMap_cons_some (by rw [h]; rfl)

theorem brackets_word (hopen : token.kind ≠ .opening) (hclose : token.kind ≠ .closing) :
    brackets (token :: rest) = brackets rest := by
  refine List.filterMap_cons_none ?_
  cases hkind : token.kind with
  | opening => exact absurd hkind hopen
  | closing => exact absurd hkind hclose
  | number | other => rfl

theorem openings_eq (tokens : List ArrayToken) :
    bracketing.openings tokens = (brackets tokens).count '[' := by
  rw [Bracketing.openings, brackets, List.count, List.countP_filterMap]
  refine List.countP_congr fun token _ => ?_
  cases hkind : token.kind <;> simp [bracketing, Class.bracket?, hkind]

theorem closings_eq (tokens : List ArrayToken) :
    bracketing.closings tokens = (brackets tokens).count ']' := by
  rw [Bracketing.closings, brackets, List.count, List.countP_filterMap]
  refine List.countP_congr fun token _ => ?_
  cases hkind : token.kind <;> simp [bracketing, Class.bracket?, hkind]

end Count

/-! ## The brackets of the text -/

/-- Whether a character is a bracket. -/
def isBracket (c : Char) : Bool :=
  c == '[' || c == ']'

/-- No bracket belongs to a word. -/
theorem isBracket_of_isWordCharacter {c : Char} (h : isWordCharacter c = true) :
    isBracket c = false := by
  rw [isWordCharacter, Bool.and_eq_true, Bool.and_eq_true, bne_iff_ne, bne_iff_ne] at h
  simp [isBracket, h.1.2, h.2]

theorem filter_word {word : List Char} (h : ∀ c ∈ word, isWordCharacter c = true) :
    word.filter isBracket = [] := by
  rw [List.filter_eq_nil_iff]
  intro c hc
  rw [isBracket_of_isWordCharacter (h c hc)]
  exact Bool.false_ne_true

/-- A word starts with a character that is neither a blank nor a bracket, and goes on with others
that are neither. -/
theorem isWordCharacter_of_mem_word {c : Char} (rest : List Char)
    (hblank : ¬ Text.isBlank c = true) (hopen : ¬ c = '[') (hclose : ¬ c = ']') :
    ∀ d ∈ c :: rest.takeWhile isWordCharacter, isWordCharacter d = true := by
  intro d hd
  rcases List.mem_cons.mp hd with rfl | hd
  · simp [isWordCharacter, hblank, hopen, hclose]
  · exact List.mem_takeWhile_imp hd

/-- A text that starts with a word is that word and what is left behind it. -/
theorem cons_eq_word_append (c : Char) (rest : List Char) :
    c :: rest = c :: rest.takeWhile isWordCharacter ++
      rest.drop (rest.takeWhile isWordCharacter).length :=
  congrArg (c :: ·) (Text.takeWhile_append_drop isWordCharacter rest).symm

/-- **The brackets among the tokens are those of the text**, in the same order. -/
theorem brackets_scanFrom (offset : Nat) (text : List Char) :
    brackets (scanFrom offset text) = text.filter isBracket := by
  fun_induction scanFrom offset text with
  | case1 => rfl
  | case2 offset c rest hblank ih =>
    have hc : isBracket c = false := by
      have hopen := Text.ne_of_kind hblank (show Text.isBlank '[' = false by decide)
      have hclose := Text.ne_of_kind hblank (show Text.isBlank ']' = false by decide)
      simp [isBracket, hopen, hclose]
    rw [ih, List.filter_cons, hc, if_neg Bool.false_ne_true]
  | case3 offset rest hblank ih =>
    rw [brackets_opening _ rfl, ih]
    rfl
  | case4 offset rest hblank hopen ih =>
    rw [brackets_closing _ rfl, ih]
    rfl
  | case5 offset c rest hblank hopen hclose more word ih =>
    have hword := isWordCharacter_of_mem_word rest hblank hopen hclose
    have hsplit : c :: rest = word ++ rest.drop more.length := cons_eq_word_append c rest
    rw [brackets_word _ (by dsimp only [ofChars]; split <;> decide)
      (by dsimp only [ofChars]; split <;> decide), ih, hsplit, List.filter_append,
      filter_word hword, List.nil_append]

theorem openings_scanFrom (offset : Nat) (text : List Char) :
    bracketing.openings (scanFrom offset text) = text.count '[' := by
  rw [openings_eq, brackets_scanFrom, List.count_filter rfl]

theorem closings_scanFrom (offset : Nat) (text : List Char) :
    bracketing.closings (scanFrom offset text) = text.count ']' := by
  rw [closings_eq, brackets_scanFrom, List.count_filter rfl]

/-- The brackets in a beginning of the tokens are those in a beginning of the text. -/
theorem exists_take_brackets (offset : Nat) (text : List Char) (n : Nat) :
    ∃ before after, text = before ++ after ∧
      brackets ((scanFrom offset text).take n) = before.filter isBracket := by
  have hsplit : text.filter isBracket =
      brackets ((scanFrom offset text).take n) ++ brackets ((scanFrom offset text).drop n) := by
    rw [← brackets_append, List.take_append_drop, brackets_scanFrom]
  obtain ⟨before, after, htext, hbefore, -⟩ := List.filter_eq_append_iff.mp hsplit
  exact ⟨before, after, htext, hbefore.symm⟩

/-- Where a literal stays open, and closes the arrays inside it that it opens, the brackets among
the tokens are paired. -/
theorem isPaired_scanFrom {text : List Char} (h : Token.StaysOpen 0 text)
    (hcount : text.count ']' = text.count '[') (offset : Nat) :
    IsPaired (scanFrom offset text) := by
  refine ⟨?_, ?_⟩
  · intro n
    obtain ⟨before, after, rfl, hbefore⟩ := exists_take_brackets offset text n
    have hopen := h.notClosed before.length
    rw [List.take_left, Nat.add_zero] at hopen
    rwa [openings_eq, closings_eq, hbefore, List.count_filter rfl, List.count_filter rfl]
  · rw [openings_scanFrom, closings_scanFrom, hcount]

/-- What is cut in front of a blank or a bracket is the same whatever follows. -/
theorem scanFrom_append {rest : List Char} (hrest : EndsWord rest) (offset : Nat)
    (text : List Char) :
    scanFrom offset (text ++ rest) =
      scanFrom offset text ++ scanFrom (offset + Text.byteLength text) rest := by
  fun_induction scanFrom offset text with
  | case1 offset => rfl
  | case2 offset c more hblank ih =>
    rw [List.cons_append, scanFrom_blank hblank, ih, Text.byteLength_cons, Nat.add_assoc]
  | case3 offset more hblank ih =>
    rw [List.cons_append, scanFrom_opening, List.cons_append, Text.byteLength_cons,
      ← Nat.add_assoc]
    exact congrArg _ ih
  | case4 offset more hblank hopen ih =>
    rw [List.cons_append, scanFrom_closing, List.cons_append, Text.byteLength_cons,
      ← Nat.add_assoc]
    exact congrArg _ ih
  | case5 offset c tail hblank hopen hclose more word ih =>
    have hword := isWordCharacter_of_mem_word tail hblank hopen hclose
    have hsplit : c :: tail = word ++ tail.drop more.length := cons_eq_word_append c tail
    -- the word ends where it ended, whether or not the text does
    have hends : EndsWord (tail.drop more.length ++ rest) := by
      cases hdrop : tail.drop more.length with
      | nil => exact hrest
      | cons d after =>
        have hd := Text.head?_drop_takeWhile isWordCharacter tail d (congrArg List.head? hdrop)
        exact endsWord_cons hd
    rw [hsplit, List.append_assoc, scanFrom_word (List.cons_ne_nil _ _) hword hends, ih,
      Text.byteLength_append, Nat.add_assoc]
    rfl

/-- **What is captured as one literal is cut into one group of brackets.** -/
theorem isGroup_scanFrom {literal : List Char} (h : Token.Class.arrayLiteral.Accepts literal)
    (offset : Nat) : IsGroup (scanFrom offset literal) := by
  cases h with
  | word h => cases h
  | @arrayLiteral inside hinside hcount =>
    rw [scanFrom_opening, scanFrom_append (endsWord_cons rfl), scanFrom_closing, scanFrom_nil]
    exact .intro rfl (isPaired_scanFrom hinside hcount _) rfl

end ArrayToken

/-! ## Inside a group -/

namespace ArrayToken

/-- The tokens are the rest of a group, where `inner` arrays inside it are open: the last of them
closes the group, and none before it does. -/
inductive Closes : Nat → List ArrayToken → Prop where
  /-- the bracket that closes the group -/
  | last {token : ArrayToken} (h : token.kind = .closing) : Closes 0 [token]
  /-- a bracket that opens one more array -/
  | opening {inner : Nat} {token : ArrayToken} {rest : List ArrayToken} (h : token.kind = .opening)
    (hrest : Closes (inner + 1) rest) : Closes inner (token :: rest)
  /-- a bracket that closes an array inside the group -/
  | closing {inner : Nat} {token : ArrayToken} {rest : List ArrayToken} (h : token.kind = .closing)
    (hrest : Closes inner rest) : Closes (inner + 1) (token :: rest)
  /-- a word -/
  | word {inner : Nat} {token : ArrayToken} {rest : List ArrayToken}
    (hopen : token.kind ≠ .opening) (hclose : token.kind ≠ .closing) (hrest : Closes inner rest) :
    Closes inner (token :: rest)

/-- Tokens that close as many arrays as are open, and none too early, lead to the bracket behind
them that closes the group. -/
theorem closes_of_counts {inner : Nat} {tokens : List ArrayToken} {last : ArrayToken}
    (hlast : last.kind = .closing)
    (hcloses : ∀ n, bracketing.closings (tokens.take n) ≤
      bracketing.openings (tokens.take n) + inner)
    (hcount : bracketing.closings tokens = bracketing.openings tokens + inner) :
    Closes inner (tokens ++ [last]) := by
  induction tokens generalizing inner with
  | nil =>
    obtain rfl : inner = 0 := by simpa using hcount.symm
    exact .last hlast
  | cons token rest ih =>
    -- behind the token the counts are as before, but for what it does to the open arrays
    have htail (n : Nat) := hcloses (n + 1)
    by_cases hopen : token.kind = .opening
    · have hopens : bracketing.opens token = true := beq_iff_eq.mpr hopen
      simp only [List.take_succ_cons, Bracketing.openings_of_opens hopens,
        Bracketing.closings_of_opens hopens] at htail hcount
      refine .opening hopen (ih (fun n => ?_) (by omega))
      have hn := htail n
      omega
    by_cases hclose : token.kind = .closing
    · have hcloses' : bracketing.closes token = true := beq_iff_eq.mpr hclose
      simp only [List.take_succ_cons, Bracketing.openings_of_closes hcloses',
        Bracketing.closings_of_closes hcloses'] at htail hcount
      cases inner with
      | zero => simpa using htail 0
      | succ inner =>
        refine .closing hclose (ih (fun n => ?_) (by omega))
        have hn := htail n
        omega
    · simp only [List.take_succ_cons,
        Bracketing.openings_of_not_opens (b := bracketing) (beq_eq_false_iff_ne.mpr hopen),
        Bracketing.closings_of_not_closes (b := bracketing) (beq_eq_false_iff_ne.mpr hclose)]
        at htail hcount
      exact .word hopen hclose (ih htail hcount)

end ArrayToken

/-! ## Trees written out -/

namespace NumberTree

/-- A piece of an array that is written out flat: a bracket, or a number. -/
inductive Piece where
  /-- the bracket that opens an array -/
  | opening
  /-- the bracket that closes an array -/
  | closing
  /-- a number -/
  | number (n : Number)

mutual

/-- The tree written out: an array as its elements between brackets. -/
def pieces : NumberTree → List Piece
  | .leaf n => [.number n]
  | .node items => .opening :: piecesAll items ++ [.closing]

/-- Several trees written out, one after the other. -/
def piecesAll : List NumberTree → List Piece
  | [] => []
  | tree :: rest => tree.pieces ++ piecesAll rest

end

theorem piecesAll_append (before after : List NumberTree) :
    piecesAll (before ++ after) = piecesAll before ++ piecesAll after := by
  induction before with
  | nil => rfl
  | cons tree before ih => simp [piecesAll, ih]

/-- The arrays that are being read and the elements read so far, written out. -/
def piecesOpen : List OpenArray → OpenArray → List Piece
  | [], inner => .opening :: piecesAll inner.read.reverse
  | around :: outer, inner => piecesOpen outer around ++ .opening :: piecesAll inner.read.reverse

theorem piecesOpen_cons (outer : List OpenArray) (inner : OpenArray) (tree : NumberTree) :
    piecesOpen outer { inner with read := tree :: inner.read } =
      piecesOpen outer inner ++ tree.pieces := by
  cases outer <;> simp [piecesOpen, piecesAll_append, piecesAll]

end NumberTree

/-! ## Reading a group -/

namespace ArrayToken

/-- What a token of a literal is read as. -/
inductive Reads : ArrayToken → NumberTree.Piece → Prop where
  /-- an opening bracket is one -/
  | opening {token : ArrayToken} (h : token.kind = .opening) : Reads token .opening
  /-- a closing bracket is one -/
  | closing {token : ArrayToken} (h : token.kind = .closing) : Reads token .closing
  /-- a word that counts as a number is the number that its text stands for -/
  | number {token : ArrayToken} {n : Number} (hkind : token.kind = .number)
    (h : Number.read token.text.toList = .value n) : Reads token (.number n)

/-- The token stands where a number should stand, and it is none, for this error. -/
inductive IsNoNumber : ArrayToken → ParseError → Prop where
  /-- the word is no number at all -/
  | notANumber {token : ArrayToken} (hopen : token.kind ≠ .opening)
    (hclose : token.kind ≠ .closing)
    (h : token.kind = .number → Number.read token.text.toList = .other) :
    IsNoNumber token ⟨.notANumber token.text, token.span⟩
  /-- the word is an integer that does not fit in 64 bits -/
  | integerTooLarge {token : ArrayToken} (hkind : token.kind = .number)
    (h : Number.read token.text.toList = .overflow) :
    IsNoNumber token ⟨.integerTooLarge token.text, token.span⟩

end ArrayToken

namespace NumberTree

open ArrayToken (Closes Reads IsNoNumber)

section Read

variable {outer : List OpenArray} {inner : OpenArray} {tokens : List ArrayToken}
  {token : ArrayToken} {items : List NumberTree} {e : ParseError}

theorem readInside_opening (h : token.kind = .opening) :
    readInside outer inner (token :: tokens) =
      readInside (inner :: outer) ⟨token.span, []⟩ tokens := by
  obtain ⟨kind, text, span⟩ := token
  obtain rfl : kind = .opening := h
  rfl

theorem readInside_closing {around : OpenArray} (h : token.kind = .closing) :
    readInside (around :: outer) inner (token :: tokens) =
      readInside outer { around with read := .node inner.read.reverse :: around.read } tokens := by
  obtain ⟨kind, text, span⟩ := token
  obtain rfl : kind = .closing := h
  rfl

theorem readInside_last (h : token.kind = .closing) :
    readInside [] inner [token] = .ok inner.read.reverse := by
  obtain ⟨kind, text, span⟩ := token
  obtain rfl : kind = .closing := h
  rfl

theorem reads_of_readNumber {n : Number} (h : readNumber token = .ok n) :
    Reads token (.number n) := by
  have hkind := kind_of_readNumber h
  rw [readNumber, hkind] at h
  cases hread : Number.read token.text.toList <;> rw [hread] at h <;> cases h
  exact .number hkind hread

theorem isNoNumber_of_readNumber (hopen : token.kind ≠ .opening)
    (hclose : token.kind ≠ .closing) (h : readNumber token = .error e) : IsNoNumber token e := by
  obtain ⟨kind, text, span⟩ := token
  cases kind with
  | opening => exact absurd rfl hopen
  | closing => exact absurd rfl hclose
  | number =>
    rw [readNumber] at h
    dsimp only at h
    cases hread : Number.read text.toList <;> rw [hread] at h <;> cases h
    · exact .integerTooLarge rfl hread
    · exact .notANumber hopen hclose fun _ => hread
  | other =>
    cases h
    exact .notANumber hopen hclose (by rintro ⟨⟩)

theorem readNumber_of_reads {n : Number} (h : Reads token (.number n)) :
    readNumber token = .ok n := by
  cases h with
  | number hkind hread => rw [readNumber, hkind, hread]

theorem readNumber_of_isNoNumber (h : IsNoNumber token e) : readNumber token = .error e := by
  cases h with
  | integerTooLarge hkind hread => rw [readNumber, hkind, hread]
  | notANumber hopen hclose hread =>
    obtain ⟨kind, text, span⟩ := token
    cases kind with
    | opening => exact absurd rfl hopen
    | closing => exact absurd rfl hclose
    | number =>
      rw [readNumber, hread rfl]
      rfl
    | other => rfl

/-- **What is read, written out, is what the tokens are read as**, one by one. -/
theorem reads_of_readInside {before : List ArrayToken}
    (hbefore : List.Forall₂ Reads before (piecesOpen outer inner))
    (h : readInside outer inner tokens = .ok items) :
    List.Forall₂ Reads (before ++ tokens) (NumberTree.node items).pieces := by
  fun_induction readInside outer inner tokens generalizing before with
  | case1 => cases h
  | case2 outer inner token rest hopening ih =>
    rw [List.append_cons]
    exact ih (List.rel_append hbefore (.cons (.opening hopening) .nil)) h
  | case3 inner token rest around outer hclosing ih =>
    have hpieces :
        piecesOpen outer { around with read := .node inner.read.reverse :: around.read } =
          piecesOpen (around :: outer) inner ++ [.closing] := by
      simp [piecesOpen_cons, piecesOpen, pieces]
    rw [List.append_cons]
    refine ih ?_ h
    rw [hpieces]
    exact List.rel_append hbefore (.cons (.closing hclosing) .nil)
  | case4 inner token hclosing =>
    cases h
    exact List.rel_append hbefore (.cons (.closing hclosing) .nil)
  | case5 => cases h
  | case6 outer inner token rest n hread _ _ _ _ ih =>
    rw [List.append_cons]
    refine ih ?_ h
    rw [piecesOpen_cons]
    exact List.rel_append hbefore (.cons (reads_of_readNumber hread) .nil)
  | case7 => cases h

/-- **Inside a group reading fails only at a word that is no number**: the tokens do not run out,
and none is left over. -/
theorem exists_of_readInside (hcloses : Closes outer.length tokens)
    (h : readInside outer inner tokens = .error e) : ∃ token ∈ tokens, IsNoNumber token e := by
  -- as many arrays are open while reading as the tokens still have to close
  generalize hdepth : outer.length = depth at hcloses
  induction hcloses generalizing outer inner with
  | last hkind =>
    obtain rfl := List.length_eq_zero_iff.mp hdepth
    rw [readInside_last hkind] at h
    cases h
  | @opening depth token rest hkind _ ih =>
    rw [readInside_opening hkind] at h
    obtain ⟨word, hword, hnone⟩ := ih h (congrArg (· + 1) hdepth)
    exact ⟨word, List.mem_cons_of_mem _ hword, hnone⟩
  | @closing depth token rest hkind _ ih =>
    obtain ⟨around, outer, rfl⟩ := List.exists_cons_of_length_eq_add_one hdepth
    rw [readInside_closing hkind] at h
    obtain ⟨word, hword, hnone⟩ := ih h (Nat.succ.inj hdepth)
    exact ⟨word, List.mem_cons_of_mem _ hword, hnone⟩
  | @word depth token rest hopen hclose _ ih =>
    rcases hread : readNumber token with e' | n
    · rw [readInside_error hopen hclose hread] at h
      cases h
      exact ⟨token, List.mem_cons_self .., isNoNumber_of_readNumber hopen hclose hread⟩
    · rw [readInside_number (kind_of_readNumber hread) hread] at h
      obtain ⟨word, hword, hnone⟩ := ih h hdepth
      exact ⟨word, List.mem_cons_of_mem _ hword, hnone⟩

end Read

section Literal

variable {literal : String} {offset : Nat} {items : List NumberTree} {e : ParseError}

/-- A literal that is read is read token by token, none of them left out. -/
theorem reads_of_ofLiteral (h : ofLiteral literal offset = .ok items) :
    List.Forall₂ Reads (ArrayToken.scan literal offset) (NumberTree.node items).pieces := by
  rw [ofLiteral] at h
  cases hscan : ArrayToken.scan literal offset with
  | nil =>
    rw [hscan] at h
    cases h
  | cons token rest =>
    rw [hscan] at h
    cases hkind : token.kind with
    | opening =>
      simp only [hkind] at h
      have hfirst : List.Forall₂ Reads [token] (piecesOpen [] ⟨token.span, []⟩) :=
        .cons (.opening hkind) .nil
      exact reads_of_readInside hfirst h
    | closing | number | other => simp [hkind] at h

/-- A literal whose tokens are one group fails only at a word that is no number. -/
theorem exists_of_isGroup (hgroup : ArrayToken.IsGroup (ArrayToken.scan literal offset))
    (h : ofLiteral literal offset = .error e) :
    ∃ token ∈ ArrayToken.scan literal offset, IsNoNumber token e := by
  rw [ofLiteral] at h
  generalize ArrayToken.scan literal offset = tokens at hgroup h ⊢
  cases hgroup with
  | @intro first last inside hfirst hinside hlast =>
    simp only [hfirst] at h
    have hcloses : Closes ([] : List OpenArray).length (inside ++ [last]) :=
      ArrayToken.closes_of_counts hlast hinside.closes hinside.complete
    obtain ⟨word, hword, hnone⟩ := exists_of_readInside hcloses h
    exact ⟨word, List.mem_cons_of_mem _ hword, hnone⟩

/-- **A captured literal fails only at a word that is no number.** -/
theorem exists_of_ofLiteral (hliteral : Token.Class.arrayLiteral.Accepts literal.toList)
    (h : ofLiteral literal offset = .error e) :
    ∃ token ∈ ArrayToken.scan literal offset, IsNoNumber token e :=
  exists_of_isGroup (ArrayToken.isGroup_scanFrom hliteral offset) h

end Literal

end NumberTree
end StackScript

import StackScript.Proofs.Number.Rounding
import StackScript.Proofs.Text.Characters

/-!
# Numbers, written and read

A number that is written reads back as the same number, unless it is infinite or NaN
(`read_chars`). The text is an optional minus sign, digits, and for a double a point with further
digits behind it (`chars_cases`): nothing in it needs an exponent, and the two kinds of numbers
cannot be taken for each other.

In the other direction, a literal never reads as NaN (`isNaN_of_read`), though it may read as an
infinite double.
-/

namespace StackScript

/-! ## Digits -/

namespace Number

theorem isDigits_iff {text : List Char} :
    isDigits text = true ↔ text ≠ [] ∧ ∀ c ∈ text, c.isDigit = true := by
  rw [isDigits, Bool.and_eq_true, Bool.not_eq_true', List.isEmpty_eq_false_iff, List.all_eq_true]

theorem isDigits_toDigits (n : Nat) : isDigits (Nat.toDigits 10 n) = true :=
  isDigits_iff.mpr ⟨Nat.toDigits_ne_nil, fun _ hc =>
    Nat.isDigit_of_mem_toDigits (by decide) (by decide) hc⟩

/-- A text with a point in it does not consist of digits. -/
theorem isDigits_point (whole fraction : List Char) :
    isDigits (whole ++ '.' :: fraction) = false := by
  rw [Bool.eq_false_iff]
  intro h
  exact absurd ((isDigits_iff.mp h).2 '.' (by simp)) (by decide)

end Number

/-! ## Numerals -/

namespace Decimal

open Number (isDigits isDigits_iff isDigits_toDigits)

/-- The digits of a numeral are its significand with zeros in front, at least one more than it has
places. -/
theorem digits_spec (d : Decimal) :
    d.places < d.digits.length ∧ isDigits d.digits = true ∧
      Nat.ofDigitChars 10 d.digits 0 = d.significand := by
  have hlength : d.places < d.digits.length := by
    rw [digits, List.length_append, List.length_replicate]
    omega
  refine ⟨hlength, isDigits_iff.mpr ⟨?_, fun c hc => ?_⟩, ?_⟩
  · intro hnil
    rw [hnil] at hlength
    exact absurd hlength (Nat.not_lt_zero _)
  · rcases List.mem_append.mp hc with hzero | hshown
    · rw [List.eq_of_mem_replicate hzero]
      rfl
    · exact (isDigits_iff.mp (isDigits_toDigits _)).2 c hshown
  · rw [digits, Nat.ofDigitChars_append, Nat.ofDigitChars_replicate_zero, Nat.mul_zero,
      Nat.ofDigitChars_ten_toDigits]

/-- A numeral with a place is written as digits around a point. -/
theorem chars_spec {d : Decimal} (h : 1 ≤ d.places) :
    ∃ whole fraction, isDigits whole = true ∧ isDigits fraction = true ∧
      d.chars = whole ++ '.' :: fraction ∧ fraction.length = d.places ∧
      Nat.ofDigitChars 10 (whole ++ fraction) 0 = d.significand := by
  obtain ⟨hlength, hdigits, hvalue⟩ := d.digits_spec
  have hall := (isDigits_iff.mp hdigits).2
  refine ⟨d.digits.take (d.digits.length - d.places), d.digits.drop (d.digits.length - d.places),
    isDigits_iff.mpr ⟨?_, fun c hc => hall c (List.mem_of_mem_take hc)⟩,
    isDigits_iff.mpr ⟨?_, fun c hc => hall c (List.mem_of_mem_drop hc)⟩, rfl, ?_, ?_⟩
  · rw [← List.length_pos_iff, List.length_take]
    omega
  · rw [← List.length_pos_iff, List.length_drop]
    omega
  · rw [List.length_drop]
    omega
  · rw [List.take_append_drop, hvalue]

/-- A text is split at the point that digits lead up to. -/
theorem splitPoint?_append {whole : List Char} (h : ∀ c ∈ whole, c.isDigit = true)
    (fraction : List Char) :
    splitPoint? (whole ++ '.' :: fraction) = some (whole, fraction) := by
  induction whole with
  | nil => rfl
  | cons c whole ih =>
    rw [List.cons_append, splitPoint?, if_neg (Text.ne_of_kind (h c (by simp)) rfl),
      ih fun c hc => h c (List.mem_cons_of_mem _ hc)]
    rfl

/-- Digits around a point are a numeral, if there are some behind it. -/
theorem ofChars?_append {whole fraction : List Char} (hwhole : ∀ c ∈ whole, c.isDigit = true)
    (hfraction : isDigits fraction = true) :
    ofChars? (whole ++ '.' :: fraction) =
      some ⟨Nat.ofDigitChars 10 (whole ++ fraction) 0, fraction.length⟩ := by
  obtain ⟨hne, hdigits⟩ := isDigits_iff.mp hfraction
  have hall : whole.all Char.isDigit && fraction.all Char.isDigit &&
      !(whole.isEmpty && fraction.isEmpty) := by
    rw [List.all_eq_true.mpr hwhole, List.all_eq_true.mpr hdigits,
      List.isEmpty_eq_false_iff.mpr hne, Bool.and_false]
    rfl
  rw [ofChars?, splitPoint?_append hwhole]
  exact if_pos hall

/-- A numeral that shows its point reads back. -/
theorem ofChars?_chars {d : Decimal} (h : 1 ≤ d.places) : ofChars? d.chars = some d := by
  obtain ⟨whole, fraction, hwhole, hfraction, hchars, hlength, hvalue⟩ := chars_spec h
  rw [hchars, ofChars?_append (isDigits_iff.mp hwhole).2 hfraction, hvalue, hlength]

end Decimal

/-! ## Numbers -/

namespace Number

/-- Whether the number is a double beyond all numerals. -/
def isInfinite : Number → Bool
  | .int _ => false
  | .real x => x.isInf

/-- Whether the number is a double that is not a number. -/
def isNaN : Number → Bool
  | .int _ => false
  | .real x => x.isNaN

/-- A number that a literal can stand for without being beyond all numerals. -/
structure IsFinite (n : Number) : Prop where
  /-- the number is not an infinite double -/
  notInfinite : n.isInfinite = false
  /-- the number is not NaN -/
  notNaN : n.isNaN = false

/-- The text of a number, given the sign and the text of its absolute value. -/
def signed (negative : Bool) (text : List Char) : List Char :=
  if negative then '-' :: text else text

theorem splitSign_signed {negative : Bool} {text : List Char} (h : text.head? ≠ some '-') :
    splitSign (signed negative text) = (negative, text) := by
  cases negative with
  | true => rfl
  | false =>
    rw [signed, if_neg Bool.false_ne_true]
    cases text with
    | nil => rfl
    | cons c rest =>
      rw [splitSign]
      rintro rest' hrest
      cases hrest
      exact h rfl

/-- Digits start with a digit. -/
theorem head?_ne_of_isDigits {text more : List Char} (h : isDigits text = true) :
    (text ++ more).head? ≠ some '-' := by
  obtain ⟨hne, hall⟩ := isDigits_iff.mp h
  cases text with
  | nil => exact absurd rfl hne
  | cons c text =>
    intro hhead
    exact Text.ne_of_kind (hall c (by simp)) rfl (Option.some.inj hhead)

/-- The text of an integer. -/
theorem intChars_eq (z : Int) :
    intChars z = signed (decide (z < 0)) (Nat.toDigits 10 z.natAbs) := by
  by_cases h : z < 0
  · rw [intChars, if_pos h, decide_eq_true h]
    rfl
  · rw [intChars, if_neg h, decide_eq_false h]
    rfl

/-- The text of a finite double. -/
theorem realChars_eq {x : Float} (hinf : x.isInf = false) (hnan : x.isNaN = false) :
    ∃ d, Decimal.shortest? x = some d ∧ realChars x = signed (isNegative x) d.chars := by
  have hsome : ∃ d, Decimal.shortest? x = some d := by
    rw [Decimal.shortest?]
    change x.toModel.unpack.isInf = false at hinf
    change x.toModel.unpack.isNaN = false at hnan
    rcases hx : x.toModel.unpack with s | _ | s | ⟨s, m, e, hpos⟩
    · rw [hx] at hinf
      cases hinf
    · rw [hx] at hnan
      cases hnan
    · exact ⟨_, rfl⟩
    · exact ⟨_, rfl⟩
  obtain ⟨d, hd⟩ := hsome
  refine ⟨d, hd, ?_⟩
  rw [realChars, realCharsWith, hd]
  cases isNegative x <;> rfl

/-- **The texts of numbers**: an optional minus sign, and digits or digits around a point. -/
theorem chars_cases {n : Number} (h : n.IsFinite) :
    ∃ negative,
      (∃ digits, isDigits digits = true ∧ n.chars = signed negative digits) ∨
      ∃ whole fraction, isDigits whole = true ∧ isDigits fraction = true ∧
        n.chars = signed negative (whole ++ '.' :: fraction) := by
  cases n with
  | int n => exact ⟨_, .inl ⟨_, isDigits_toDigits _, intChars_eq n.toInt⟩⟩
  | real x =>
    obtain ⟨d, hd, hchars⟩ := realChars_eq h.notInfinite h.notNaN
    obtain ⟨whole, fraction, hwhole, hfraction, htext, -⟩ :=
      Decimal.chars_spec (Decimal.toFloat_of_shortest? hd).2
    rw [htext] at hchars
    exact ⟨_, .inr ⟨whole, fraction, hwhole, hfraction, hchars⟩⟩

/-- An infinite double is written as a word. -/
theorem realChars_of_isInf {x : Float} (h : x.isInf = true) :
    realChars x = signed (isNegative x) ['i', 'n', 'f'] := by
  have hnan : x.isNaN = false ∧ Decimal.shortest? x = none := by
    change x.toModel.unpack.isInf = true at h
    change x.toModel.unpack.isNaN = false ∧ _
    rw [Decimal.shortest?]
    rcases hunpack : x.toModel.unpack with s | _ | s | ⟨s, m, e, hpos⟩ <;> rw [hunpack] at h <;>
      first | exact ⟨rfl, rfl⟩ | cases h
  rw [realChars, realCharsWith, hnan.2, hnan.1]
  cases isNegative x <;> rfl

/-- So is what is not a number, without a sign. -/
theorem realChars_of_isNaN {x : Float} (h : x.isNaN = true) : realChars x = ['N', 'a', 'N'] := by
  have hnone : Decimal.shortest? x = none := by
    change x.toModel.unpack.isNaN = true at h
    rw [Decimal.shortest?]
    rcases hunpack : x.toModel.unpack with s | _ | s | ⟨s, m, e, hpos⟩ <;> rw [hunpack] at h <;>
      first | rfl | cases h
  rw [realChars, realCharsWith, hnone, h]
  rfl

/-- The texts of numbers that are not finite. -/
theorem chars_of_not_isFinite {n : Number} (h : ¬ n.IsFinite) :
    n.chars = ['N', 'a', 'N'] ∨ ∃ negative, n.chars = signed negative ['i', 'n', 'f'] := by
  cases n with
  | int n => exact absurd ⟨rfl, rfl⟩ h
  | real x =>
    rcases hinf : x.isInf with _ | _
    · rcases hnan : x.isNaN with _ | _
      · exact absurd ⟨hinf, hnan⟩ h
      · exact .inl (realChars_of_isNaN hnan)
    · exact .inr ⟨_, realChars_of_isInf hinf⟩

theorem read_intChars (n : Int64) : read (intChars n.toInt) = .value (.int n) := by
  have hdigits := isDigits_toDigits n.toInt.natAbs
  have hhead : (Nat.toDigits 10 n.toInt.natAbs ++ []).head? ≠ some '-' :=
    head?_ne_of_isDigits hdigits
  rw [List.append_nil] at hhead
  have hvalue : (if decide (n.toInt < 0) = true then -(n.toInt.natAbs : Int)
      else (n.toInt.natAbs : Int)) = n.toInt := by
    by_cases hneg : n.toInt < 0
    · rw [if_pos (decide_eq_true hneg)]
      omega
    · rw [if_neg (by simpa using hneg)]
      omega
  rw [read, intChars_eq, splitSign_signed hhead]
  dsimp only
  rw [if_pos hdigits, Nat.ofDigitChars_ten_toDigits, hvalue, int64?_toInt]

theorem read_realChars {x : Float} (hinf : x.isInf = false) (hnan : x.isNaN = false) :
    read (realChars x) = .value (.real x) := by
  obtain ⟨d, hd, hchars⟩ := realChars_eq hinf hnan
  obtain ⟨hvalue, hplaces⟩ := Decimal.toFloat_of_shortest? hd
  obtain ⟨whole, fraction, hwhole, -, htext, -⟩ := Decimal.chars_spec hplaces
  have hhead : d.chars.head? ≠ some '-' := htext ▸ head?_ne_of_isDigits hwhole
  have hdigits : isDigits d.chars = false := htext ▸ isDigits_point whole fraction
  rw [read, hchars, splitSign_signed hhead]
  dsimp only
  rw [hdigits, if_neg Bool.false_ne_true, Decimal.ofChars?_chars hplaces]
  dsimp only
  rw [hvalue, Double.signed_abs x hnan]

/-- **A number that is written reads back**, if it is neither infinite nor NaN. -/
theorem read_chars {n : Number} (h : n.IsFinite) : read n.chars = .value n := by
  cases n with
  | int n => exact read_intChars n
  | real x => exact read_realChars h.notInfinite h.notNaN

/-- No literal reads as NaN. -/
theorem isNaN_of_read {text : List Char} {n : Number} (h : read text = .value n) :
    n.isNaN = false := by
  rw [read] at h
  generalize splitSign text = split at h
  obtain ⟨negative, unsigned⟩ := split
  dsimp only at h
  split at h
  · split at h <;> cases h
    rfl
  · split at h <;> cases h
    next d _ =>
      have hnan := Decimal.isNaN_toFloat d
      cases negative with
      | false => exact hnan
      | true => exact (Double.isNaN_neg _).trans hnan

/-- A number equals itself unless it is NaN. -/
theorem beq_self {n : Number} (hnan : n.isNaN = false) : (n == n) = true := by
  cases n with
  | int n => exact beq_self_eq_true n
  | real x => exact Double.beq_self hnan

end Number

end StackScript

import StackScript.Decimal.Shortest
import StackScript.Text.Quoted

/-!
# Numbers

A number of the language is a 64-bit signed integer or a double. The two kinds never compare equal
as values, though arithmetic mixes them freely. This module holds the type, its literals and its
printed forms; `StackScript.Number.Arithmetic` holds what the operators compute.

A literal is read by `Number.ofChars?` and written by `Number.chars`. The two forms are told apart
by the point, which a printed double always carries and an integer never does.
-/

namespace StackScript

/-- An integer of 64 bits or a double. -/
inductive Number where
  /-- a signed integer of 64 bits -/
  | int (n : Int64)
  /-- a double, possibly infinite or not a number -/
  | real (x : Float)

namespace Number

/-! ## Integers within 64 bits -/

/-- The 64-bit integer with the value `z`, if `z` fits. -/
def int64? (z : Int) : Option Int64 :=
  if Int64.minValue.toInt ≤ z ∧ z ≤ Int64.maxValue.toInt then some (Int64.ofInt z) else none

/-- An integer that fits comes back from its 64-bit form unchanged. -/
theorem toInt_of_int64? {z : Int} {n : Int64} (h : int64? z = some n) : n.toInt = z := by
  simp only [int64?, Option.ite_none_right_eq_some, Option.some.injEq] at h
  obtain ⟨⟨hlow, hhigh⟩, rfl⟩ := h
  rw [Int64.toInt_minValue] at hlow
  rw [Int64.toInt_maxValue] at hhigh
  exact Int64.toInt_ofInt_of_le hlow (by omega)

/-- Every 64-bit integer fits. -/
theorem int64?_toInt (n : Int64) : int64? n.toInt = some n := by
  have hlow : Int64.minValue.toInt ≤ n.toInt := by
    rw [Int64.toInt_minValue]
    exact n.le_toInt
  have hhigh : n.toInt ≤ Int64.maxValue.toInt := by
    have hlt := n.toInt_lt
    rw [Int64.toInt_maxValue]
    omega
  rw [int64?, if_pos ⟨hlow, hhigh⟩, Int64.ofInt_toInt]

/-! ## Views -/

/-- The number as a double; an integer is rounded to the nearest one. -/
def toFloat : Number → Float
  | .int n => Float.ofModel (Float.Model.ofInt n.toInt)
  | .real x => x

/-- The number as an integer, if it is one. -/
def toInt? : Number → Option Int64
  | .int n => some n
  | .real _ => none

/-- Whether the number is zero; both zeros of the doubles are. -/
def isZero : Number → Bool
  | .int n => n == 0
  | .real x => x == 0.0

/-- Equality as values: an integer never equals a double, a double that is not a number equals
nothing, and the two zeros of the doubles are equal. -/
protected def beq : Number → Number → Bool
  | .int n, .int m => n == m
  | .real x, .real y => x == y
  | _, _ => false

instance : BEq Number := ⟨Number.beq⟩

/-! ## Literals -/

/-- Splits off one minus sign at the front of a text. -/
def splitSign : List Char → Bool × List Char
  | '-' :: rest => (true, rest)
  | text => (false, text)

/-- Whether a text consists of digits only and has at least one. -/
def isDigits (text : List Char) : Bool :=
  !text.isEmpty && text.all Char.isDigit

/-- What a text is when it is read as a number. -/
inductive Reading where
  /-- the text is a literal of this number -/
  | value (n : Number)
  /-- the text is an integer literal that does not fit in 64 bits -/
  | overflow
  /-- the text is no number literal -/
  | other

/-- Reads a literal: an optional minus sign, then digits (an integer) or digits with one point
among them (a double). An integer that does not fit is refused; a double that is too large becomes
infinite. -/
def read (text : List Char) : Reading :=
  let (negative, unsigned) := splitSign text
  if isDigits unsigned then
    let magnitude : Int := Nat.ofDigitChars 10 unsigned 0
    match int64? (if negative then -magnitude else magnitude) with
    | some n => .value (.int n)
    | none => .overflow
  else
    match Decimal.ofChars? unsigned with
    | some d => .value (.real (if negative then -d.toFloat else d.toFloat))
    | none => .other

/-! ## Printed forms -/

/-- An integer in decimal, with a minus sign in front if it is negative. -/
def intChars (z : Int) : List Char :=
  if z < 0 then '-' :: Nat.toDigits 10 z.natAbs else Nat.toDigits 10 z.natAbs

/-- Whether the sign of a double is a minus; the negative zero has one. NaN is printed without. -/
def isNegative (x : Float) : Bool :=
  match x.toModel.unpack with
  | .zero s | .finite s _ _ _ | .infinity s => s == .negative
  | .notANumber => false

/-- A double around the text of its absolute value: the sign in front, `inf` for the infinities and
`NaN` for what is not a number. -/
def realCharsWith (write : Decimal → List Char) (x : Float) : List Char :=
  let sign := if isNegative x then ['-'] else []
  match Decimal.shortest? x with
  | some d => sign ++ write d
  | none => if x.isNaN then ['N', 'a', 'N'] else sign ++ ['i', 'n', 'f']

/-- A double with the fewest digits that read back, never with an exponent, and always with a digit
on either side of the point. -/
def realChars (x : Float) : List Char :=
  realCharsWith Decimal.chars x

/-- The printed form of a number. -/
def chars : Number → List Char
  | .int n => intChars n.toInt
  | .real x => realChars x

/-- A numeral in scientific form: one digit, the further significant digits after a point if there
are any, and the power of ten. -/
def scientificChars (d : Decimal) : List Char :=
  let digits := Nat.toDigits 10 d.significand
  let significant := (digits.reverse.dropWhile (· = '0')).reverse
  let exponent : Int := digits.length - 1 - d.places
  let rest := significant.drop 1
  significant.take 1 ++ (if rest.isEmpty then [] else '.' :: rest) ++ 'e' :: intChars exponent

/-- Whether the inspection form writes a numeral in scientific form: from `1e16` on, and below
`1e-4` unless it is zero. -/
def isScientific (d : Decimal) : Bool :=
  Nat.pow 10 (16 + d.places) ≤ d.significand ||
    (d.significand != 0 && d.significand * 10000 < Nat.pow 10 d.places)

/-- The form in which a number is shown when a value is inspected: that of `chars`, but very large
and very small doubles are in scientific form. -/
def inspectChars : Number → List Char
  | .int n => intChars n.toInt
  | .real x => realCharsWith (fun d => if isScientific d then scientificChars d else d.chars) x

end Number

end StackScript

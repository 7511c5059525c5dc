/-!
# Decimal numerals

A decimal numeral is a natural number with a point somewhere among its digits: `2.50` has the
significand `250` and two places. Three things can be done with one:

* `Decimal.ofChars?` reads it from digits around one point;
* `Decimal.chars` writes it, with at least one digit before the point;
* `Decimal.toFloat` rounds it to the nearest double, a half going to the even neighbour.

Signs are handled by whoever uses a numeral: a numeral is never negative.
-/

namespace StackScript

/-- The number `significand / 10 ^ places`, written with `places` digits after the point. -/
structure Decimal where
  /-- all digits, before and after the point, as one number -/
  significand : Nat
  /-- how many of the digits stand after the point -/
  places : Nat
  deriving DecidableEq, Repr

namespace Decimal

/-! ## Reading -/

/-- Splits a text at its first point; a text without a point has nothing to split at. -/
def splitPoint? : List Char → Option (List Char × List Char)
  | [] => none
  | c :: rest =>
    if c = '.' then some ([], rest)
    else (splitPoint? rest).map fun (whole, fraction) => (c :: whole, fraction)

/-- Reads a numeral: digits with exactly one point among them, before or after them, and at least
one digit. So `2.5`, `2.` and `.5` are numerals, a lone point and `1.2.3` are not. -/
def ofChars? (text : List Char) : Option Decimal :=
  match splitPoint? text with
  | none => none
  | some (whole, fraction) =>
    if whole.all Char.isDigit && fraction.all Char.isDigit &&
        !(whole.isEmpty && fraction.isEmpty) then
      some ⟨Nat.ofDigitChars 10 (whole ++ fraction) 0, fraction.length⟩
    else none

/-! ## Writing -/

/-- The digits of the significand, filled up with zeros on the left until at least one digit stands
before the point. -/
def digits (d : Decimal) : List Char :=
  let shown := Nat.toDigits 10 d.significand
  List.replicate (d.places + 1 - shown.length) '0' ++ shown

/-- The numeral as text: the whole part, a point, and `places` further digits. -/
def chars (d : Decimal) : List Char :=
  let split := d.digits.length - d.places
  d.digits.take split ++ '.' :: d.digits.drop split

/-! ## Value -/

open Float.Model (UnpackedFloat)

/-- The double nearest to `num / den`, the even one of two that are equally near, for positive `num`
and `den`. The quotient is worked out to at least 57 bits, more than a double has, and how the
remainder compares with half the divisor settles what the bits that are left out amount to. -/
def nearest (num den : Nat) : Float :=
  let exponent : Int := num.log2 - den.log2 - 57
  let num := num <<< (-exponent).toNat
  let den := den <<< exponent.toNat
  let accuracy := UnpackedFloat.accuracyOfFraction (num % den) den
  Float.ofModel <| .pack <|
    UnpackedFloat.roundWithAccuracy .binary64 .positive (num / den) exponent accuracy

/-- The double nearest to the numeral, the even one of two that are equally near. A numeral beyond
the largest double is infinite. -/
def toFloat (d : Decimal) : Float :=
  if d.significand = 0 then 0.0 else nearest d.significand (Nat.pow 10 d.places)

end Decimal

end StackScript

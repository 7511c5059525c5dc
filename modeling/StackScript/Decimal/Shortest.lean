import StackScript.Decimal

/-!
# The shortest decimal numeral of a double

A double is printed with the fewest significant digits that still read back as the same double, and
among numerals of that many digits as the one nearest to it. The search works on the exact decimal
expansion of the double, which every double has: `m * 2 ^ e` is `m * 5 ^ (-e)` with `-e` places when
`e` is negative. For one digit, two digits, and so on, the expansion is cut after that many digits;
the two numerals around it are read back by `Decimal.toFloat`, and the first length at which one of
them returns the double wins.

Seventeen digits are always enough, so the search ends there; after it stands the expansion itself,
which needs no rounding.
-/

namespace StackScript.Decimal

/-- The exact decimal expansion of `m * 2 ^ e`. -/
def expansion (m : Nat) (e : Int) : Decimal :=
  if 0 ≤ e then ⟨m * Nat.pow 2 e.toNat, 0⟩ else ⟨m * Nat.pow 5 (-e).toNat, (-e).toNat⟩

/-- The numeral for `significand * 10 ^ (cut - places)`, with at least one place so that it always
shows a point. A zero at the end of the significand is moved out of it first. -/
def scaled (significand cut places : Nat) : Decimal :=
  let (significand, cut) :=
    if significand % 10 = 0 then (significand / 10, cut + 1) else (significand, cut)
  if cut < places then ⟨significand, places - cut⟩
  else ⟨significand * Nat.pow 10 (cut - places) * 10, 1⟩

/-- Of the numerals just below and just above an expansion whose last `cut` digits are dropped, the
one that reads back as `x`. If both do, the nearer one is taken, and the upper one when the dropped
digits are exactly a half. -/
def rounded? (x : Float) (full : Decimal) (cut : Nat) : Option Decimal :=
  let unit := Nat.pow 10 cut
  let kept := full.significand / unit
  let dropped := full.significand % unit
  let lower := scaled kept cut full.places
  let upper := scaled (kept + 1) cut full.places
  let readsBack (d : Decimal) : Bool := d.toFloat == x
  match readsBack lower, readsBack upper with
  | true, true => some (if 2 * dropped < unit then lower else upper)
  | true, false => some lower
  | false, true => some upper
  | false, false => none

/-- The shortest numeral for a positive finite double `x`, whose mantissa and exponent are `m` and
`e`: the first length from one to seventeen digits that has a numeral reading back as `x`. -/
def shortestOf (x : Float) (m : Nat) (e : Int) : Decimal :=
  let full := expansion m e
  let length := (Nat.toDigits 10 full.significand).length
  match (List.range (min length 17)).findSome? fun n => rounded? x full (length - (n + 1)) with
  | some d => d
  | none => scaled full.significand 0 full.places

/-- The shortest numeral that reads back as the absolute value of a finite double. Infinities and
NaN have no numeral. -/
def shortest? (x : Float) : Option Decimal :=
  match x.toModel.unpack with
  | .zero _ => some ⟨0, 1⟩
  | .finite _ m e _ => some (shortestOf x.abs m e)
  | .infinity _ | .notANumber => none

end StackScript.Decimal

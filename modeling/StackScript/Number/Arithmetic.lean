import StackScript.Number

/-!
# Arithmetic on numbers

Two integers stay integral as long as the exact result fits in 64 bits; otherwise, and whenever a
double takes part, the result is a double. Each integer operation is therefore written on the
unbounded integers and narrowed at the end by `Number.narrow`, which makes overflow a question about
the exact result alone.

The remainder is floored: it is zero or has the sign of the divisor. On doubles it starts from the
exact truncated remainder, which is always a double and needs no rounding.
-/

namespace StackScript.Number

open Float.Model (UnpackedFloat)

/-- The integer `z` if it fits in 64 bits, and the double `otherwise` if it does not. The double is
worked out only when it is needed, which is hardly ever. -/
@[macro_inline] def narrow (z : Int) (otherwise : Float) : Number :=
  match int64? z with
  | some n => .int n
  | none => .real otherwise

/-- The sum of two numbers. -/
def add : Number → Number → Number
  | .int a, .int b => narrow (a.toInt + b.toInt) ((int a).toFloat + (int b).toFloat)
  | a, b => .real (a.toFloat + b.toFloat)

/-- The difference of two numbers. -/
def sub : Number → Number → Number
  | .int a, .int b => narrow (a.toInt - b.toInt) ((int a).toFloat - (int b).toFloat)
  | a, b => .real (a.toFloat - b.toFloat)

/-- The product of two numbers. -/
def mul : Number → Number → Number
  | .int a, .int b => narrow (a.toInt * b.toInt) ((int a).toFloat * (int b).toFloat)
  | a, b => .real (a.toFloat * b.toFloat)

/-- The quotient of two numbers, a double even when both are integers. -/
def div (a b : Number) : Number :=
  .real (a.toFloat / b.toFloat)

/-- The number with its sign changed. -/
def neg : Number → Number
  | .int a => narrow (-a.toInt) (-(int a).toFloat)
  | .real x => .real (-x)

/-! ## Remainders -/

/-- The remainder of a division rounded toward zero. Both doubles are integers once they are scaled
by the smaller of their two powers of two, and the remainder of those, scaled back, fits in a double
again; it carries the sign of `x`, also when it is zero. -/
def truncatedRemainder (x y : Float) : Float :=
  match x.toModel.unpack, y.toModel.unpack with
  | .finite s m e _, .finite _ m' e' _ =>
    let low := min e e'
    let remainder : Nat := (m <<< (e - low).toNat) % (m' <<< (e' - low).toNat)
    Float.ofModel (Float.Model.pack (.normalize .binary64 (s.apply remainder) low s))
  | .zero _, .finite .. | .zero _, .infinity _ | .finite .., .infinity _ => x
  | _, _ => 0.0 / 0.0

/-- The remainder of a division rounded down: zero, or of the sign of the divisor. -/
def flooredRemainder (x y : Float) : Float :=
  let remainder := truncatedRemainder x y
  if remainder != 0.0 && (decide (remainder < 0.0) != decide (y < 0.0)) then remainder + y
  else remainder

/-- The floored remainder of two numbers. The one pair of integers whose quotient does not fit in
64 bits, the least integer by `-1`, is divided as doubles. -/
def mod : Number → Number → Number
  | .int a, .int b =>
    match int64? (a.toInt.tdiv b.toInt) with
    | some _ => narrow (a.toInt.fmod b.toInt) 0.0
    | none => .real (flooredRemainder (int a).toFloat (int b).toFloat)
  | a, b => .real (flooredRemainder a.toFloat b.toFloat)

/-! ## Comparison -/

/-- Whether the first number is the smaller one. Two integers compare exactly; anything with a
double in it compares as doubles, where what is not a number is neither smaller nor larger. -/
def lt : Number → Number → Bool
  | .int a, .int b => decide (a.toInt < b.toInt)
  | a, b => decide (a.toFloat < b.toFloat)

/-- Whether the first number is the larger one. -/
def gt (a b : Number) : Bool :=
  lt b a

/-- Whether two numbers are equal in value, a double and an integer included. -/
def eq : Number → Number → Bool
  | .int a, .int b => decide (a.toInt = b.toInt)
  | a, b => a.toFloat == b.toFloat

end StackScript.Number

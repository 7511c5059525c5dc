import Mathlib.Data.Rat.Floor
import StackScript.Proofs.Session.Action

/-!
# Integers stay integral

What addition, subtraction, multiplication, negation and the remainder are of integers is said on
the unbounded integers (`Primitive.Exact`), the remainder by the quotient in the rationals, rounded
down. The operators compute it and narrow it to 64 bits, so what they push is an integer exactly if
it fits, and otherwise a double (`Session.integral_iff_fits`).

There is one exception. The remainder always fits, but before it is worked out the quotient is, and
the quotient of the least integer by `-1` is one too large. That remainder is zero, and what is
pushed is the negative zero of the doubles (`Session.not_integral_of_fits`).
-/

namespace StackScript

namespace Number

/-! ## Integers of 64 bits -/

/-- Whether an integer fits in 64 bits, one of them for the sign. -/
def Fits (z : Int) : Prop :=
  -2 ^ 63 ≤ z ∧ z < 2 ^ 63

instance (z : Int) : Decidable (Fits z) :=
  inferInstanceAs (Decidable (_ ∧ _))

/-- Every integer of 64 bits fits. -/
theorem fits_toInt (n : Int64) : Fits n.toInt :=
  ⟨n.le_toInt, n.toInt_lt⟩

/-- An integer is narrowed exactly if it fits. -/
theorem map_toInt_int64? (z : Int) :
    (int64? z).map Int64.toInt = if Fits z then some z else none := by
  by_cases hz : Fits z
  · have hbounds : Int64.minValue.toInt ≤ z ∧ z ≤ Int64.maxValue.toInt := by
      rw [Int64.toInt_minValue, Int64.toInt_maxValue]
      exact ⟨hz.1, Int.le_sub_one_of_lt hz.2⟩
    rw [if_pos hz, int64?, if_pos hbounds, Option.map_some, Int64.toInt_ofInt_of_le hz.1 hz.2]
  · rw [if_neg hz]
    rcases hn : int64? z with _ | n
    · rfl
    · rw [← toInt_of_int64? hn] at hz
      exact absurd (fits_toInt n) hz

theorem int64?_eq_none_iff {z : Int} : int64? z = none ↔ ¬ Fits z := by
  rw [← Option.map_eq_none_iff (f := Int64.toInt), map_toInt_int64?]
  split <;> simp [*]

/-- What is narrowed is an integer exactly if it fits. -/
theorem map_toInt_narrow (z : Int) (x : Float) :
    (narrow z x).toInt?.map Int64.toInt = if Fits z then some z else none := by
  rw [← map_toInt_int64?, narrow]
  cases int64? z <;> rfl

/-! ## Remainders -/

/-- The remainder of the division rounded down is what the quotient leaves, rounded down. -/
theorem sub_mul_floor_eq_fmod (a : Int) {b : Int} (hb : b ≠ 0) :
    a - b * ⌊(a : ℚ) / b⌋ = a.fmod b := by
  have hfloor (a : Int) {b : Int} (hb : 0 < b) : ⌊(a : ℚ) / b⌋ = a.fdiv b := by
    lift b to ℕ using hb.le
    rw [Int.fdiv_eq_ediv_of_nonneg a hb.le, Int.cast_natCast, Rat.floor_intCast_div_natCast]
  rw [Int.fmod_def]
  rcases lt_or_gt_of_ne hb with hneg | hpos
  · have hflip := hfloor (-a) (Int.neg_pos_of_neg hneg)
    rw [Int.cast_neg, Int.cast_neg, neg_div_neg_eq, Int.neg_fdiv_neg] at hflip
    rw [hflip]
  · rw [hfloor a hpos]

/-- The remainder is zero or has the sign of the divisor, and it is smaller. -/
theorem fmod_sign_and_lt (a : Int) {b : Int} (hb : b ≠ 0) :
    (a.fmod b = 0 ∨ (a.fmod b).sign = b.sign) ∧ (a.fmod b).natAbs < b.natAbs := by
  rcases lt_or_gt_of_ne hb with hneg | hpos
  · have hnonneg := Int.fmod_nonneg_of_pos (-a) (Int.neg_pos_of_neg hneg)
    have hlt := Int.fmod_lt_of_pos (-a) (Int.neg_pos_of_neg hneg)
    rw [Int.neg_fmod_neg] at hnonneg hlt
    refine ⟨?_, by omega⟩
    rcases Int.lt_or_eq_of_le hnonneg with hpos | hzero
    · right
      rw [Int.sign_eq_neg_one_of_neg hneg, Int.sign_eq_neg_one_of_neg (Int.neg_pos.mp hpos)]
    · exact .inl (Int.neg_eq_zero.mp hzero.symm)
  · have hnonneg := Int.fmod_nonneg_of_pos a hpos
    have hlt := Int.fmod_lt_of_pos a hpos
    refine ⟨?_, by omega⟩
    rcases Int.lt_or_eq_of_le hnonneg with hr | hzero
    · right
      rw [Int.sign_eq_one_of_pos hpos, Int.sign_eq_one_of_pos hr]
    · exact .inl hzero.symm

/-- Remainders always fit. -/
theorem fits_fmod (a : Int) {b : Int64} (hb : b.toInt ≠ 0) : Fits (a.fmod b.toInt) := by
  have hlt := (fmod_sign_and_lt a hb).2
  obtain ⟨hlow, hhigh⟩ := fits_toInt b
  constructor <;> omega

/-- The one quotient that does not fit is that of the least integer by `-1`. -/
theorem fits_tdiv_iff {a b : Int64} (hb : b.toInt ≠ 0) :
    Fits (a.toInt.tdiv b.toInt) ↔ ¬ (a = Int64.minValue ∧ b = -1) := by
  obtain ⟨hlow, hhigh⟩ := fits_toInt a
  have hmin : a = Int64.minValue ↔ a.toInt = -2 ^ 63 := by
    rw [← Int64.toInt_inj, Int64.toInt_minValue]
  have hone : b = -1 ↔ b.toInt = -1 := by
    rw [← Int64.toInt_inj]
    rfl
  rw [hmin, hone]
  rcases (by omega : b.toInt = 1 ∨ b.toInt = -1 ∨ 2 ≤ b.toInt.natAbs) with hb | hb | hb
  · rw [hb, Int.tdiv_one]
    exact iff_of_true ⟨hlow, hhigh⟩ (by omega)
  · rw [hb, Int.tdiv_neg, Int.tdiv_one, Fits]
    omega
  · -- a divisor of two or more halves the dividend at least
    have habs : (a.toInt.tdiv b.toInt).natAbs = a.toInt.natAbs / b.toInt.natAbs :=
      Int.natAbs_tdiv a.toInt b.toInt
    have hhalf : a.toInt.natAbs / b.toInt.natAbs ≤ a.toInt.natAbs / 2 :=
      Nat.div_le_div_left hb Nat.two_pos
    refine iff_of_true ?_ (by omega)
    constructor <;> omega

/-- The remainder of two integers is an integer, unless the quotient does not fit. -/
theorem map_toInt_mod (a : Int64) {b : Int64} (hb : b.toInt ≠ 0) :
    (mod (.int a) (.int b)).toInt?.map Int64.toInt =
      if a = Int64.minValue ∧ b = -1 then none else some (a.toInt.fmod b.toInt) := by
  rw [mod]
  rcases hquotient : int64? (a.toInt.tdiv b.toInt) with _ | q
  · rw [int64?_eq_none_iff, fits_tdiv_iff hb, not_not] at hquotient
    rw [if_pos hquotient]
    rfl
  · have hfits : Fits (a.toInt.tdiv b.toInt) := by
      rw [← toInt_of_int64? hquotient]
      exact fits_toInt q
    rw [if_neg ((fits_tdiv_iff hb).mp hfits)]
    exact (map_toInt_narrow _ 0.0).trans (if_pos (fits_fmod a.toInt hb))

end Number

/-! ## The operators -/

open Number (Fits)

/-- What an operator comes to on integers, deepest first, if it is worked out exactly. -/
inductive Primitive.Exact : Primitive → List Int64 → Int → Prop where
  /-- the sum -/
  | add (a b : Int64) : Exact .add [a, b] (a.toInt + b.toInt)
  /-- the difference -/
  | sub (a b : Int64) : Exact .sub [a, b] (a.toInt - b.toInt)
  /-- the product -/
  | mul (a b : Int64) : Exact .mul [a, b] (a.toInt * b.toInt)
  /-- the number with its sign changed -/
  | neg (a : Int64) : Exact .neg [a] (-a.toInt)
  /-- what is left of the first by the quotient, rounded down -/
  | mod (a : Int64) {b : Int64} (hb : b.toInt ≠ 0) :
    Exact .mod [a, b] (a.toInt - b.toInt * ⌊(a.toInt : ℚ) / b.toInt⌋)

/-- The one division whose quotient does not fit. -/
def Primitive.IsLeastByMinusOne (p : Primitive) (operands : List Int64) : Prop :=
  p = .mod ∧ operands = [Int64.minValue, -1]

instance (p : Primitive) (operands : List Int64) : Decidable (p.IsLeastByMinusOne operands) :=
  inferInstanceAs (Decidable (_ ∧ _))

/-- The operands that integers are, the last of them on top of what lies beneath. -/
def Operands.ofInts (ints : List Int64) (rest : Operands) : Operands :=
  (ints.map fun n => Value.number (.int n)).reverse ++ rest

namespace Primitive

variable {p : Primitive} {m : Machine} {rest : Operands} {a b : Int64}

theorem arithmetic_ofInts (f : Number → Number → Number) (hops : m.operands = .ofInts [a, b] rest) :
    arithmetic p f m = .ok { m with operands := .number (f (.int a) (.int b)) :: rest } := by
  rw [arithmetic, Machine.withTwo, hops]
  rfl

theorem division_ofInts (f : Number → Number → Number) (hb : b.toInt ≠ 0)
    (hops : m.operands = .ofInts [a, b] rest) :
    division p f m = .ok { m with operands := .number (f (.int a) (.int b)) :: rest } := by
  have hzero : (Number.int b).isZero = false := by
    rw [Number.isZero, beq_eq_false_iff_ne]
    rintro rfl
    exact hb rfl
  have hresults : (if (Number.int b).isZero then (.error (.byZero (.primitive p)) : Except Fault _)
      else pure [Value.number (f (.int a) (.int b))]) =
        .ok [.number (f (.int a) (.int b))] := by
    rw [hzero]
    rfl
  rw [division, Machine.withTwo, hops]
  exact congrArg (Except.map _) hresults

/-- What an operator pushes for integers is an integer exactly if its exact result fits, but for the
one division whose quotient does not. -/
theorem apply_ofInts (mode : Mode) {ints : List Int64} {z : Int} (h : p.Exact ints z)
    (hops : m.operands = .ofInts ints rest) :
    ∃ x : Number, p.apply mode m = .ok { m with operands := .number x :: rest } ∧
      x.toInt?.map Int64.toInt =
        if Fits z ∧ ¬ p.IsLeastByMinusOne ints then some z else none := by
  have hnarrow {p : Primitive} (hp : p ≠ .mod) (ints : List Int64) (z : Int) (x : Float) :
      (Number.narrow z x).toInt?.map Int64.toInt =
        if Fits z ∧ ¬ p.IsLeastByMinusOne ints then some z else none := by
    rw [Number.map_toInt_narrow]
    congr 1
    rw [IsLeastByMinusOne, eq_iff_iff]
    tauto
  cases h with
  | add a b => exact ⟨_, arithmetic_ofInts _ hops, hnarrow (by decide) _ _ _⟩
  | sub a b => exact ⟨_, arithmetic_ofInts _ hops, hnarrow (by decide) _ _ _⟩
  | mul a b => exact ⟨_, arithmetic_ofInts _ hops, hnarrow (by decide) _ _ _⟩
  | neg a =>
    refine ⟨(Number.int a).neg, ?_, hnarrow (by decide) _ _ _⟩
    rw [apply, Machine.withOne, hops]
    rfl
  | @mod a b hb =>
    refine ⟨_, division_ofInts _ hb hops, ?_⟩
    have hexcept : IsLeastByMinusOne .mod [a, b] ↔ a = Int64.minValue ∧ b = -1 := by
      simp [IsLeastByMinusOne]
    rw [Number.map_toInt_mod a hb, Number.sub_mul_floor_eq_fmod a.toInt hb]
    by_cases hleast : IsLeastByMinusOne .mod [a, b]
    · rw [if_pos (hexcept.mp hleast), if_neg fun h => h.2 hleast]
    · rw [if_neg (mt hexcept.mpr hleast), if_pos ⟨Number.fits_fmod a.toInt hb, hleast⟩]

end Primitive

namespace Session

/-- **Integers stay integral.** On integers addition, subtraction, multiplication, negation and the
remainder, by a divisor that is not zero, push an integer exactly if the exact result fits in 64
bits, and then it is the exact result; otherwise they push a double. The one exception is the
remainder of the least integer by `-1`, for which a double is pushed although the remainder is zero.
A remainder is zero or has the sign of the divisor, and it is smaller. -/
theorem integral_iff_fits (s : Session) {p : Primitive} {ints : List Int64} {z : Int}
    {rest : Operands} (h : p.Exact ints z) (hops : s.operands = .ofInts ints rest) :
    (∃ x : Number, s.call (.primitive p) =
        (none, s.mapMachine fun m => { m with operands := .number x :: rest }) ∧
      x.toInt?.map Int64.toInt =
        if Fits z ∧ ¬ p.IsLeastByMinusOne ints then some z else none) ∧
    ∀ a b, p = .mod → ints = [a, b] →
      (z = 0 ∨ z.sign = b.toInt.sign) ∧ z.natAbs < b.toInt.natAbs := by
  refine ⟨?_, ?_⟩
  · obtain ⟨x, happly, hx⟩ := Primitive.apply_ofInts s.policy.mode (m := s.state.machine) h hops
    refine ⟨x, ?_, hx⟩
    rw [call, StackScript.call, invoke_primitive, happly]
    rfl
  · rintro a b rfl rfl
    cases h with
    | mod a hb =>
      rw [Number.sub_mul_floor_eq_fmod a.toInt hb]
      exact Number.fmod_sign_and_lt a.toInt hb

/-- The least integer has no negative of 64 bits, and `-7` leaves `2` of a division by `3`. -/
theorem integral_iff_fits_of_promoted :
    let s := (fresh .standard .silent).push (.number (.int Int64.minValue))
    let t := ((fresh .standard .silent).push (.number (.int (-7)))).push (.number (.int 3))
    Primitive.neg.Exact [Int64.minValue] (2 ^ 63) ∧
      (∃ x : Number, s.call (.primitive .neg) =
          (none, s.mapMachine fun m => { m with operands := [.number x] }) ∧ x.toInt? = none) ∧
      ∃ x : Number, t.call (.primitive .mod) =
        (none, t.mapMachine fun m => { m with operands := [.number x] }) ∧ x.toInt? = some 2 := by
  intro s t
  have hneg : Primitive.neg.Exact [Int64.minValue] (2 ^ 63) := .neg Int64.minValue
  have hmod : Primitive.mod.Exact [-7, 3] _ := .mod (-7) (by decide)
  refine ⟨hneg, ?_, ?_⟩
  · have hops : s.operands = .ofInts [Int64.minValue] [] := rfl
    obtain ⟨⟨x, hcall, hx⟩, -⟩ := integral_iff_fits s hneg hops
    rw [if_neg (by decide)] at hx
    exact ⟨x, hcall, Option.map_eq_none_iff.mp hx⟩
  · have hops : t.operands = .ofInts [-7, 3] [] := rfl
    obtain ⟨⟨x, hcall, hx⟩, -⟩ := integral_iff_fits t hmod hops
    rw [Number.sub_mul_floor_eq_fmod _ (by decide), if_pos (by decide)] at hx
    obtain ⟨n, hn, htwo⟩ := Option.map_eq_some_iff.mp hx
    refine ⟨x, hcall, hn.trans (congrArg some (Int64.toInt_inj.mp htwo))⟩

/-- So it is not true that an operator pushes an integer wherever the exact result fits: the least
integer leaves nothing of a division by `-1`, and what is pushed is the negative zero. -/
theorem not_integral_of_fits :
    ¬ ∀ (s : Session) (p : Primitive) (ints : List Int64) (z : Int) (rest : Operands),
      p.Exact ints z → s.operands = .ofInts ints rest → Fits z →
        ∃ n : Int64, (s.call (.primitive p)).2.operands = .number (.int n) :: rest ∧
          n.toInt = z := by
  intro h
  let s := ((fresh .standard .silent).push (.number (.int Int64.minValue))).push
    (.number (.int (-1)))
  have hmod : Primitive.mod.Exact [Int64.minValue, -1] _ := .mod Int64.minValue (by decide)
  rw [Number.sub_mul_floor_eq_fmod _ (by decide)] at hmod
  obtain ⟨n, hoperands, -⟩ := h s .mod [Int64.minValue, -1] _ [] hmod rfl (by decide)
  have hreal : (s.call (.primitive .mod)).2.operands = [.number (.real (-0.0))] := rfl
  rw [hreal] at hoperands
  cases hoperands

end Session

end StackScript

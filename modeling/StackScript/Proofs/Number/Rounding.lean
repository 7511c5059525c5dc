import StackScript.Proofs.Number.Double

/-!
# Numerals that a double has exactly

A numeral is rounded to the nearest double. If it is the value of a double, there is nothing to
round, and that double is what comes out (`unpack_nearest`). This is what makes the shortest numeral
of a double read back as the double (`toFloat_of_shortest?`): those that the search considers are
read back before they are accepted, and where it ends without one, the exact expansion is left.

It is also shown that no numeral is read as NaN (`isNaN_toFloat`).
-/

namespace StackScript

open Float.Model (Format UnpackedFloat totalExponent)
open Float.Model.UnpackedFloat (Sign Accuracy ExtendedMantissa shiftToTargetExponent)

namespace Double

/-! ## Rounding where there is nothing to round -/

variable {m : Nat} {e : Int}

theorem log2_mul_two_pow (hpos : 0 < m) (k : Nat) : (m * 2 ^ k).log2 = m.log2 + k := by
  have hm := Nat.ne_of_gt hpos
  have hproduct := Nat.ne_of_gt (Nat.mul_pos hpos (Nat.two_pow_pos k))
  obtain ⟨hle, hlt⟩ := (Nat.log2_eq_iff hm).mp rfl
  refine (Nat.log2_eq_iff hproduct).mpr ⟨?_, ?_⟩
  · rw [Nat.pow_add]
    exact Nat.mul_le_mul_right _ hle
  · rw [Nat.add_right_comm, Nat.pow_add]
    exact Nat.mul_lt_mul_of_pos_right hlt (Nat.two_pow_pos k)

/-- The exponent of a double is the one that its format wants. -/
theorem IsCanonical.targetExponent (h : IsCanonical m e) :
    Format.binary64.targetExponent (totalExponent m e) = e := by
  have hlog : m.log2 < 53 := (Nat.log2_lt (Nat.ne_of_gt h.pos)).mpr h.mantissa_lt
  have hle := h.le_exponent
  rw [Format.targetExponent, totalExponent, show Format.binary64.mantissaBits = 53 from rfl,
    show Format.binary64.minExponent = -1074 from rfl]
  rcases h.full with hfull | rfl
  · have hge : 52 ≤ m.log2 := (Nat.le_log2 (Nat.ne_of_gt h.pos)).mpr hfull
    omega
  · omega

/-- Shifting out zeros leaves no trace. -/
theorem shiftRight_mul_two_pow (m k : Nat) :
    (⟨m * 2 ^ k, false, false⟩ : ExtendedMantissa) >>> k = ⟨m, false, false⟩ := by
  change k.repeat ExtendedMantissa.shiftRightOne ⟨m * 2 ^ k, false, false⟩ = _
  induction k generalizing m with
  | zero => rw [Nat.pow_zero, Nat.mul_one, Nat.repeat]
  | succ k ih =>
    rw [Nat.repeat, Nat.pow_succ', ← Nat.mul_assoc, ih (m * 2), ExtendedMantissa.shiftRightOne]
    dsimp only
    rw [Nat.mul_div_cancel _ (by decide), Nat.mul_mod_left]
    rfl

/-- A mantissa that is longer by zeros is brought to its exponent without loss. -/
theorem IsCanonical.shiftToTargetExponent (h : IsCanonical m e) (k : Nat) :
    shiftToTargetExponent .binary64 (m * 2 ^ k) (e - k) .exact = (⟨m, false, false⟩, e) := by
  have htotal : totalExponent (m * 2 ^ k) (e - k) = totalExponent m e := by
    rw [totalExponent, totalExponent, log2_mul_two_pow h.pos]
    omega
  have hshift : (e - (e - k)).toNat = k := by omega
  rw [UnpackedFloat.shiftToTargetExponent, htotal, h.targetExponent,
    UnpackedFloat.shiftToExponent, hshift, ExtendedMantissa.ofMantissaAndAccuracy,
    shiftRight_mul_two_pow, Int.sub_add_cancel]

theorem IsCanonical.roundWithAccuracy (h : IsCanonical m e) (s : Sign) (k : Nat) :
    UnpackedFloat.roundWithAccuracy .binary64 s (m * 2 ^ k) (e - k) .exact =
      .finite s m e h.pos := by
  have hagain := h.shiftToTargetExponent 0
  rw [Nat.pow_zero, Nat.mul_one, Int.ofNat_zero, Int.sub_zero] at hagain
  -- rounding may lengthen a mantissa, so it is shifted a second time, here by nothing
  have hrounded : (⟨m, false, false⟩ : ExtendedMantissa).roundedMantissa = m := rfl
  rw [UnpackedFloat.roundWithAccuracy, h.shiftToTargetExponent k]
  dsimp only
  rw [hrounded, hagain]
  exact dif_neg (Nat.ne_of_gt h.pos)

end Double

namespace Decimal

open Double

/-- The quotient of two numbers is worked out to more bits than a double has. -/
theorem exponent_le_of_exact {num den m a b : Nat} {e : Int} (h : IsCanonical m e)
    (hden : 0 < den) (hvalue : num * 2 ^ a = m * 2 ^ b * den) (he : e = b - a) :
    (num.log2 : Int) - den.log2 - 57 ≤ e := by
  have hright : 0 < m * 2 ^ b * den :=
    Nat.mul_pos (Nat.mul_pos h.pos (Nat.two_pow_pos b)) hden
  have hnum : 0 < num := Nat.pos_of_mul_pos_right (hvalue ▸ hright)
  -- both sides of the equation lie between powers of two, which compares their exponents
  have hlow : 2 ^ (num.log2 + a) ≤ num * 2 ^ a := by
    rw [Nat.pow_add]
    exact Nat.mul_le_mul_right _ (Nat.log2_self_le (Nat.ne_of_gt hnum))
  have hhigh : m * 2 ^ b * den < 2 ^ (53 + b + (den.log2 + 1)) := by
    rw [Nat.pow_add, Nat.pow_add]
    exact Nat.mul_lt_mul'' (Nat.mul_lt_mul_of_pos_right h.mantissa_lt (Nat.two_pow_pos b))
      Nat.lt_log2_self
  have hexponents : num.log2 + a < 53 + b + (den.log2 + 1) :=
    (Nat.pow_lt_pow_iff_right (by decide)).mp (Nat.lt_of_le_of_lt hlow (hvalue ▸ hhigh))
  omega

/-- Written with the common exponent, such a quotient leaves no remainder. -/
theorem shiftLeft_eq_of_exact {num den m a b k : Nat} {e : Int}
    (hvalue : num * 2 ^ a = m * 2 ^ b * den) (he : e = b - a) :
    num <<< (-(e - k)).toNat = m * 2 ^ k * (den <<< (e - k).toNat) := by
  have hexponents : (-(e - k)).toNat + b = k + (e - k).toNat + a := by omega
  generalize (-(e - k)).toNat = p at hexponents ⊢
  generalize (e - k).toNat = q at hexponents ⊢
  apply Nat.eq_of_mul_eq_mul_right (Nat.two_pow_pos a)
  calc num <<< p * 2 ^ a = num * 2 ^ a * 2 ^ p := by
        rw [Nat.shiftLeft_eq, Nat.mul_right_comm]
    _ = m * 2 ^ b * den * 2 ^ p := by rw [hvalue]
    _ = m * den * 2 ^ (p + b) := by rw [Nat.pow_add]; ac_rfl
    _ = m * den * 2 ^ (k + q + a) := by rw [hexponents]
    _ = m * 2 ^ k * (den <<< q) * 2 ^ a := by
        rw [Nat.pow_add, Nat.pow_add, Nat.shiftLeft_eq]; ac_rfl

/-- **A quotient that is the value of a double is rounded to that double.** -/
theorem unpack_nearest {num den m a b : Nat} {e : Int} (h : IsCanonical m e) (hden : 0 < den)
    (hvalue : num * 2 ^ a = m * 2 ^ b * den) (he : e = b - a) :
    (nearest num den).toModel.unpack = .finite .positive m e h.pos := by
  have hle := exponent_le_of_exact h hden hvalue he
  rw [nearest]
  generalize (num.log2 : Int) - den.log2 - 57 = exponent at hle ⊢
  obtain ⟨k, rfl⟩ : ∃ k : Nat, exponent = e - k := ⟨(e - exponent).toNat, by omega⟩
  have hdivisor : 0 < den <<< (e - k).toNat := by
    rw [Nat.shiftLeft_eq]
    exact Nat.mul_pos hden (Nat.two_pow_pos _)
  dsimp only
  rw [shiftLeft_eq_of_exact hvalue he, Nat.mul_mod_left, Nat.mul_div_cancel _ hdivisor,
    show UnpackedFloat.accuracyOfFraction 0 _ = .exact from rfl, h.roundWithAccuracy]
  exact unpack_pack .positive h.pos h

/-- No numeral is read as something that is not a number. -/
theorem isNaN_toFloat (d : Decimal) : d.toFloat.isNaN = false := by
  rw [toFloat]
  by_cases hzero : d.significand = 0
  · rw [if_pos hzero]
    rfl
  · rw [if_neg hzero, nearest]
    change (Float.Model.pack (UnpackedFloat.roundWithAccuracy _ _ _ _ _)).isNaN = false
    rw [UnpackedFloat.roundWithAccuracy]
    dsimp only
    split
    · rfl
    · exact isNaN_pack_finite .positive _

/-! ## The shortest numeral reads back -/

/-- A numeral that is moved behind its point stands for the same number. -/
theorem scaled_value (significand cut places : Nat) :
    (scaled significand cut places).significand * 10 ^ places =
      significand * 10 ^ cut * 10 ^ (scaled significand cut places).places := by
  have hshown (s c : Nat) :
      (if c < places then ⟨s, places - c⟩
        else ⟨s * 10 ^ (c - places) * 10, 1⟩ : Decimal).significand * 10 ^ places =
      s * 10 ^ c * 10 ^ (if c < places then ⟨s, places - c⟩
        else ⟨s * 10 ^ (c - places) * 10, 1⟩ : Decimal).places := by
    by_cases hcut : c < places
    · rw [if_pos hcut, Nat.mul_assoc, ← Nat.pow_add, Nat.add_sub_cancel' (Nat.le_of_lt hcut)]
    · rw [if_neg hcut, Nat.pow_one, Nat.mul_right_comm, Nat.mul_assoc s, ← Nat.pow_add,
        Nat.sub_add_cancel (Nat.le_of_not_lt hcut)]
  rw [scaled]
  by_cases hround : significand % 10 = 0
  · have hten : significand * 10 ^ cut = significand / 10 * 10 ^ (cut + 1) := by
      have hdivides := Nat.div_mul_cancel (Nat.dvd_of_mod_eq_zero hround)
      rw [Nat.pow_succ', ← Nat.mul_assoc, hdivides]
    rw [if_pos hround, hten]
    exact hshown (significand / 10) (cut + 1)
  · rw [if_neg hround]
    exact hshown significand cut

/-- A numeral that is moved behind its point shows the point. -/
theorem one_le_places_scaled (significand cut places : Nat) :
    1 ≤ (scaled significand cut places).places := by
  rw [scaled]
  generalize (if significand % 10 = 0 then (significand / 10, cut + 1) else (significand, cut)) = p
  rcases p with ⟨s, c⟩
  dsimp only
  split
  · dsimp only
    omega
  · exact Nat.le_refl 1

/-- The expansion of a mantissa and an exponent is what they stand for. -/
theorem expansion_value (m : Nat) (e : Int) :
    ∃ a b : Nat, e = b - a ∧
      (expansion m e).significand * 2 ^ a = m * 2 ^ b * 10 ^ (expansion m e).places := by
  rw [expansion]
  by_cases hsign : 0 ≤ e
  · rw [if_pos hsign]
    exact ⟨0, e.toNat, by omega, rfl⟩
  · rw [if_neg hsign]
    refine ⟨(-e).toNat, 0, by omega, ?_⟩
    change m * 5 ^ (-e).toNat * 2 ^ (-e).toNat = m * 1 * 10 ^ (-e).toNat
    rw [Nat.mul_assoc, ← Nat.mul_pow, Nat.mul_one]

/-- Written with a point, the expansion of a double reads back as the double. -/
theorem unpack_toFloat_expansion {m : Nat} {e : Int} (h : IsCanonical m e) :
    (scaled (expansion m e).significand 0 (expansion m e).places).toFloat.toModel.unpack =
      .finite .positive m e h.pos := by
  obtain ⟨a, b, he, hexpansion⟩ := expansion_value m e
  have hscaled := scaled_value (expansion m e).significand 0 (expansion m e).places
  generalize scaled (expansion m e).significand 0 (expansion m e).places = d at hscaled ⊢
  generalize expansion m e = full at hexpansion hscaled
  have hten (n : Nat) : 0 < 10 ^ n := Nat.pow_pos (by decide)
  -- the numeral and the expansion stand for the same number: bring both to the same places
  have hvalue : d.significand * 2 ^ a = m * 2 ^ b * 10 ^ d.places := by
    apply Nat.eq_of_mul_eq_mul_right (hten full.places)
    calc d.significand * 2 ^ a * 10 ^ full.places
        = d.significand * 10 ^ full.places * 2 ^ a := Nat.mul_right_comm ..
      _ = full.significand * 2 ^ a * 10 ^ d.places := by
        rw [hscaled, Nat.pow_zero, Nat.mul_one, Nat.mul_right_comm]
      _ = m * 2 ^ b * 10 ^ d.places * 10 ^ full.places := by
        rw [hexpansion, Nat.mul_right_comm]
  have hne : d.significand ≠ 0 := by
    intro hzero
    have hpos := Nat.mul_pos (Nat.mul_pos h.pos (Nat.two_pow_pos b)) (hten d.places)
    rw [← hvalue, hzero, Nat.zero_mul] at hpos
    exact Nat.lt_irrefl 0 hpos
  rw [toFloat, if_neg hne]
  exact unpack_nearest h (hten d.places) hvalue he

/-- What the search accepts reads back, and shows a point. -/
theorem toFloat_of_rounded? {x : Float} {full d : Decimal} {cut : Nat}
    (h : rounded? x full cut = some d) : (d.toFloat == x) = true ∧ 1 ≤ d.places := by
  rw [rounded?] at h
  dsimp only at h
  rcases hlower : (scaled (full.significand / Nat.pow 10 cut) cut full.places).toFloat == x
    with _ | _ <;>
  rcases hupper : (scaled (full.significand / Nat.pow 10 cut + 1) cut full.places).toFloat == x
    with _ | _ <;>
  rw [hlower, hupper] at h
  · cases h
  · cases h
    exact ⟨hupper, one_le_places_scaled ..⟩
  · cases h
    exact ⟨hlower, one_le_places_scaled ..⟩
  · obtain rfl := Option.some.inj h
    split
    · exact ⟨hlower, one_le_places_scaled ..⟩
    · exact ⟨hupper, one_le_places_scaled ..⟩

/-- **The shortest numeral of a double reads back as its absolute value**, and it shows a point. -/
theorem toFloat_of_shortest? {x : Float} {d : Decimal} (h : shortest? x = some d) :
    d.toFloat = x.abs ∧ 1 ≤ d.places := by
  rw [shortest?] at h
  rcases hx : x.toModel.unpack with s | _ | s | ⟨s, m, e, hpos⟩ <;> rw [hx] at h
  · cases h
  · cases h
  · cases h
    refine ⟨eq_of_unpack_eq ?_, Nat.le_refl 1⟩
    rw [unpack_abs, hx]
    rfl
  · have habs : x.abs.toModel.unpack = .finite .positive m e hpos := by
      rw [unpack_abs, hx]
      rfl
    obtain rfl := Option.some.inj h
    rw [shortestOf]
    split
    · next d hfound =>
      obtain ⟨n, -, hrounded⟩ := List.exists_of_findSome?_eq_some hfound
      obtain ⟨hreads, hplaces⟩ := toFloat_of_rounded? hrounded
      exact ⟨eq_of_beq habs hreads, hplaces⟩
    · refine ⟨eq_of_unpack_eq ?_, one_le_places_scaled ..⟩
      rw [habs, unpack_toFloat_expansion (isCanonical_of_unpack hx)]

end Decimal

end StackScript

import StackScript.Proofs.Number.Rounding

/-!
# Numerals beyond the largest double

Rounding to the nearest double has a last half: a numeral is read as infinite from the point on that
lies halfway between the largest double and what would be the next (`Double.overflowBound`), and
below that point as a finite double (`Decimal.isInf_toFloat_iff`).

Rounding happens in two shifts. The first one drops all bits but 53 and rounds what is left, which
may then be `2 ^ 53` and one bit too long; the second one drops that bit (`roundWithAccuracy_eq`). A
double is infinite if its exponent comes out above 971, and where the first shift leaves 971 itself
it is the rounding that decides (`roundedMantissa_eq_iff`).
-/

namespace StackScript

open Float.Model (Format UnpackedFloat totalExponent)
open Float.Model.UnpackedFloat (Sign Accuracy ExtendedMantissa packComponents)

namespace Double

/-- The least integer that is nearer to infinity than to the largest double: with 54 bits, all of
them ones, it lies halfway between the largest double and `2 ^ 1024`. -/
def overflowBound : Nat :=
  (2 ^ 54 - 1) * 2 ^ 970

theorem overflowBound_pos : 0 < overflowBound := by
  unfold overflowBound
  positivity

theorem overflowBound_le : overflowBound ≤ 2 ^ 54 * 2 ^ 970 := by
  rw [overflowBound]
  exact Nat.mul_le_mul_right _ (by decide)

/-! ## Shifting -/

theorem mantissa_shiftRight (em : ExtendedMantissa) (k : Nat) :
    (em >>> k).mantissa = em.mantissa / 2 ^ k := by
  induction k with
  | zero => rw [Nat.pow_zero, Nat.div_one]; rfl
  | succ k ih =>
    change (em >>> k).mantissa / 2 = _
    rw [ih, Nat.div_div_eq_div_mul, Nat.pow_succ]

/-- The bit that was dropped last. -/
theorem roundBit_shiftRight (em : ExtendedMantissa) (k : Nat) :
    (em >>> (k + 1)).roundBit = (em.mantissa / 2 ^ k % 2 != 0) := by
  change ((em >>> k).mantissa % 2 != 0) = _
  rw [mantissa_shiftRight]

theorem mantissa_ofMantissaAndAccuracy (m : Nat) (a : Accuracy) :
    (ExtendedMantissa.ofMantissaAndAccuracy m a).mantissa = m := by
  rcases a with _ | _ | _ | _ <;> rfl

/-! ## Rounding -/

theorem le_roundedMantissa (em : ExtendedMantissa) : em.mantissa ≤ em.roundedMantissa := by
  rcases em with ⟨m, _ | _, _ | _⟩
  · exact Nat.le_refl m
  · exact Nat.le_refl m
  · exact Nat.le_add_right m (m % 2)
  · exact Nat.le_add_right m 1

/-- A half is not rounded to an odd mantissa, so that the last bit dropped decides. -/
theorem roundedMantissa_of_odd {em : ExtendedMantissa} (h : em.mantissa % 2 = 1) :
    em.roundedMantissa = if em.roundBit then em.mantissa + 1 else em.mantissa := by
  rcases em with ⟨m, _ | _, _ | _⟩
  · rfl
  · rfl
  · exact congrArg (m + ·) h
  · rfl

theorem roundedMantissa_le (em : ExtendedMantissa) : em.roundedMantissa ≤ em.mantissa + 1 := by
  rcases em with ⟨m, _ | _, _ | _⟩
  · exact Nat.le_succ m
  · exact Nat.le_succ m
  · exact Nat.add_le_add_left (Nat.le_of_lt_succ (Nat.mod_lt m (by decide))) m
  · exact Nat.le_refl _

/-- A mantissa is rounded up to one bit more than it may have exactly if all bits that it may have
are ones, and the next one too. -/
theorem roundedMantissa_eq_iff (em : ExtendedMantissa) {k : Nat}
    (h : em.mantissa / 2 ^ (k + 1) < 2 ^ 53) :
    (em >>> (k + 1)).roundedMantissa = 2 ^ 53 ↔ (2 ^ 54 - 1) * 2 ^ k ≤ em.mantissa := by
  have hmantissa := mantissa_shiftRight em (k + 1)
  have hbit := roundBit_shiftRight em k
  rw [← Nat.le_div_iff_mul_le (Nat.two_pow_pos k)]
  rw [Nat.pow_succ, ← Nat.div_div_eq_div_mul] at h hmantissa
  generalize em >>> (k + 1) = shifted at hmantissa hbit ⊢
  generalize em.mantissa / 2 ^ k = bits at h hmantissa hbit ⊢
  by_cases hones : bits / 2 = 2 ^ 53 - 1
  · rw [roundedMantissa_of_odd (by omega), hbit, hmantissa, hones]
    rcases Nat.mod_two_eq_zero_or_one bits with hlast | hlast
    · rw [hlast, if_neg (by decide)]
      omega
    · rw [hlast, if_pos (by decide)]
      omega
  · have hle := roundedMantissa_le shifted
    omega

/-- What has no more bits than a double is left as it is. -/
theorem shiftToTargetExponent_of_lt {m : Nat} {e : Int} (hm : m < 2 ^ 53) (he : -1074 ≤ e) :
    UnpackedFloat.shiftToTargetExponent .binary64 m e .exact = (⟨m, false, false⟩, e) := by
  have hlog : m.log2 < 53 := by
    by_cases hzero : m = 0
    · rw [hzero]
      decide
    · exact (Nat.log2_lt hzero).mpr hm
  have hshift : (Format.binary64.targetExponent (totalExponent m e) - e).toNat = 0 := by
    rw [Format.targetExponent, totalExponent, show Format.binary64.mantissaBits = 53 from rfl,
      show Format.binary64.minExponent = -1074 from rfl]
    omega
  rw [UnpackedFloat.shiftToTargetExponent, UnpackedFloat.shiftToExponent, hshift, Int.natCast_zero,
    Int.add_zero]
  rfl

/-- What has one bit more loses it. -/
theorem shiftToTargetExponent_of_eq {e : Int} (he : -1074 ≤ e) :
    UnpackedFloat.shiftToTargetExponent .binary64 (2 ^ 53) e .exact =
      (⟨2 ^ 52, false, false⟩, e + 1) := by
  have hshift : (Format.binary64.targetExponent (totalExponent (2 ^ 53) e) - e).toNat = 1 := by
    rw [Format.targetExponent, totalExponent, Nat.log2_two_pow,
      show Format.binary64.mantissaBits = 53 from rfl,
      show Format.binary64.minExponent = -1074 from rfl]
    omega
  rw [UnpackedFloat.shiftToTargetExponent, UnpackedFloat.shiftToExponent, hshift]
  rfl

section Round

variable (s : Sign) (m : Nat) (e : Int) (a : Accuracy)

/-- The exponent that is left after the first shift. -/
def firstExponent (m : Nat) (e : Int) : Int :=
  max e (max (m.log2 + e - 52) (-1074))

/-- The mantissa that is left after the first shift, rounded. -/
def firstMantissa (m : Nat) (e : Int) (a : Accuracy) : Nat :=
  (ExtendedMantissa.ofMantissaAndAccuracy m a >>>
    (firstExponent m e - e).toNat).roundedMantissa

/-- The first shift leaves 53 bits at most. -/
theorem shifted_lt : m / 2 ^ (firstExponent m e - e).toNat < 2 ^ 53 := by
  rw [Nat.div_lt_iff_lt_mul (Nat.two_pow_pos _), ← Nat.pow_add]
  refine Nat.lt_of_lt_of_le Nat.lt_log2_self (Nat.pow_le_pow_right (by decide) ?_)
  rw [firstExponent]
  omega

/-- Rounding may lengthen the mantissa by a bit, and no more. -/
theorem firstMantissa_le : firstMantissa m e a ≤ 2 ^ 53 := by
  have hle := roundedMantissa_le (ExtendedMantissa.ofMantissaAndAccuracy m a >>>
    (firstExponent m e - e).toNat)
  rw [mantissa_shiftRight, mantissa_ofMantissaAndAccuracy] at hle
  have hlt := shifted_lt m e
  rw [firstMantissa]
  omega

/-- **Rounding**: the first shift, and if the mantissa has become too long by being rounded, a
second. -/
theorem roundWithAccuracy_eq :
    UnpackedFloat.roundWithAccuracy .binary64 s m e a =
      if h : firstMantissa m e a = 0 then .zero s
      else if firstMantissa m e a < 2 ^ 53 then
        .finite s (firstMantissa m e a) (firstExponent m e) (Nat.pos_of_ne_zero h)
      else .finite s (2 ^ 52) (firstExponent m e + 1) (by decide) := by
  have hfirst : UnpackedFloat.shiftToTargetExponent .binary64 m e a =
      (ExtendedMantissa.ofMantissaAndAccuracy m a >>> (firstExponent m e - e).toNat,
        firstExponent m e) := by
    have hshift : (Format.binary64.targetExponent (totalExponent m e) - e).toNat =
        (firstExponent m e - e).toNat := by
      rw [Format.targetExponent, totalExponent, firstExponent,
        show Format.binary64.mantissaBits = 53 from rfl,
        show Format.binary64.minExponent = -1074 from rfl]
      omega
    have hexponent : e + (firstExponent m e - e).toNat = firstExponent m e := by
      rw [firstExponent]
      omega
    rw [UnpackedFloat.shiftToTargetExponent, UnpackedFloat.shiftToExponent, hshift, hexponent]
  have he : -1074 ≤ firstExponent m e := by
    rw [firstExponent]
    omega
  have hle := firstMantissa_le m e a
  rw [UnpackedFloat.roundWithAccuracy, hfirst]
  dsimp only
  rw [← firstMantissa]
  generalize firstMantissa m e a = rounded at hle ⊢
  by_cases hlt : rounded < 2 ^ 53
  · simp only [shiftToTargetExponent_of_lt hlt he, if_pos hlt]
  · obtain rfl : rounded = 2 ^ 53 := by omega
    simp only [shiftToTargetExponent_of_eq he, if_neg hlt]
    rfl

end Round

/-! ## Infinite doubles -/

/-- Only an exponent of all ones makes something infinite. -/
theorem isInf_packComponents {s : Sign} {biased : BitVec 11} {fraction : BitVec 52}
    (h : biased ≠ -1#11) :
    (UnpackedFloat.unpack .binary64 (packComponents .binary64 s biased fraction)).isInf =
      false := by
  have hcase := unpacked_packComponents s biased fraction
  generalize UnpackedFloat.unpack .binary64 _ = f at hcase
  cases hcase with
  | infinity => exact absurd rfl h
  | _ => rfl

/-- What is packed is infinite exactly if its exponent is larger than that of any double. -/
theorem isInf_pack_finite (s : Sign) {m : Nat} {e : Int} (hpos : 0 < m) :
    (Float.Model.pack (.finite s m e hpos)).isInf = true ↔ 972 ≤ e := by
  change (UnpackedFloat.unpack .binary64 (UnpackedFloat.pack .binary64 _)).isInf = true ↔ _
  rw [UnpackedFloat.pack, show Format.binary64.exponentBias = 1023 from rfl]
  dsimp only
  by_cases hlarge : 2 ^ 11 ≤ (e + (1023 : Nat) + (52 : Nat)).toNat + 1
  · rw [if_pos hlarge]
    exact iff_of_true (congrArg UnpackedFloat.isInf (unpack_infinity s)) (by omega)
  · have hne : BitVec.ofNat 11 (e + (1023 : Nat) + (52 : Nat)).toNat ≠ -1#11 := by
      intro heq
      have hbiased := congrArg BitVec.toNat heq
      change (e + (1023 : Nat) + (52 : Nat)).toNat % 2 ^ 11 = 2047 at hbiased
      omega
    rw [if_neg hlarge]
    refine iff_of_false (Bool.not_eq_true _ ▸ ?_) (by omega)
    split
    · exact isInf_packComponents hne
    · exact isInf_packComponents (by decide)

section Overflow

variable {m : Nat} (e : Int) (a : Accuracy)

/-- A mantissa that is long enough is shifted to 53 bits, or to the least exponent. -/
theorem firstExponent_of_le (hm : 2 ^ 56 ≤ m) :
    firstExponent m e = max (m.log2 + e - 52) (-1074) := by
  have hlog : 56 ≤ m.log2 := (Nat.le_log2 (by omega)).mpr hm
  rw [firstExponent]
  omega

/-- Above the least exponent, no mantissa that is long enough is lost by rounding. -/
theorem firstMantissa_ne_zero (hm : 2 ^ 56 ≤ m) (h : -1074 < firstExponent m e) :
    firstMantissa m e a ≠ 0 := by
  have hne : m ≠ 0 := by omega
  have hlog : 56 ≤ m.log2 := (Nat.le_log2 hne).mpr hm
  have hshift : (firstExponent m e - e).toNat = m.log2 - 52 := by
    rw [firstExponent_of_le e hm] at h ⊢
    omega
  have hlow : 2 ^ 52 ≤ m / 2 ^ (m.log2 - 52) := by
    rw [Nat.le_div_iff_mul_le (Nat.two_pow_pos _), ← Nat.pow_add,
      show 52 + (m.log2 - 52) = m.log2 by omega]
    exact Nat.log2_self_le hne
  have hle := le_roundedMantissa (ExtendedMantissa.ofMantissaAndAccuracy m a >>> (m.log2 - 52))
  rw [mantissa_shiftRight, mantissa_ofMantissaAndAccuracy] at hle
  rw [firstMantissa, hshift]
  omega

/-- Whether a result is infinite can be seen after the first shift. -/
theorem isInf_iff_first (s : Sign) (hm : 2 ^ 56 ≤ m) :
    (Float.Model.pack (UnpackedFloat.roundWithAccuracy .binary64 s m e a)).isInf = true ↔
      972 ≤ firstExponent m e ∨ firstExponent m e = 971 ∧ firstMantissa m e a = 2 ^ 53 := by
  have hle := firstMantissa_le m e a
  have hne := firstMantissa_ne_zero e a hm
  rw [roundWithAccuracy_eq]
  split
  · next hzero =>
    have hfinite : (Float.Model.pack (.zero s)).isInf = false :=
      congrArg UnpackedFloat.isInf UnpackedFloat.unpack_packedZero
    rw [hfinite]
    refine iff_of_false Bool.false_ne_true ?_
    rintro (h | ⟨-, h⟩)
    · exact hne (by omega) hzero
    · rw [h] at hzero
      cases hzero
  · split <;> rw [isInf_pack_finite] <;> omega

/-- A result is infinite from `2 ^ 54 - 1` units of the exponent 970 on. -/
theorem isInf_pack_roundWithAccuracy (s : Sign) (hm : 2 ^ 56 ≤ m) :
    (Float.Model.pack (UnpackedFloat.roundWithAccuracy .binary64 s m e a)).isInf = true ↔
      970 < e ∨ (2 ^ 54 - 1) * 2 ^ (970 - e).toNat ≤ m := by
  have hne : m ≠ 0 := by omega
  have hlog : 56 ≤ m.log2 := (Nat.le_log2 hne).mpr hm
  obtain ⟨hlow, hhigh⟩ := (Nat.log2_eq_iff hne).mp rfl
  have hfirst := firstExponent_of_le e hm
  rw [isInf_iff_first e a s hm]
  rcases Int.lt_trichotomy (firstExponent m e) 971 with hbelow | hequal | habove
  · -- even if all bits were ones, it would be finite
    have hpow : 2 ^ (m.log2 + 1) ≤ 2 ^ 53 * 2 ^ (970 - e).toNat := by
      rw [← Nat.pow_add]
      exact Nat.pow_le_pow_right (by decide) (by omega)
    omega
  · -- the rounding decides
    have hshift : (firstExponent m e - e).toNat = (970 - e).toNat + 1 := by omega
    have hlt := shifted_lt m e
    rw [hshift, ← mantissa_ofMantissaAndAccuracy m a] at hlt
    have hround := roundedMantissa_eq_iff _ hlt
    rw [mantissa_ofMantissaAndAccuracy, ← hshift, ← firstMantissa] at hround
    rw [hround]
    omega
  · -- even without its lower bits it is infinite
    refine iff_of_true (.inl habove) ?_
    by_cases hlarge : 970 < e
    · exact .inl hlarge
    · have hpow : 2 ^ 54 * 2 ^ (970 - e).toNat ≤ 2 ^ m.log2 := by
        rw [← Nat.pow_add]
        exact Nat.pow_le_pow_right (by decide) (by omega)
      omega

end Overflow

end Double

/-! ## Numerals -/

namespace Decimal

open Double

/-- A quotient is worked out to at least 57 bits. -/
theorem two_pow_mul_le_of_exponent {num den p q : Nat} (hnum : 0 < num)
    (h : num.log2 + p = den.log2 + 57 + q) : 2 ^ 56 * (den * 2 ^ q) ≤ num * 2 ^ p := by
  calc 2 ^ 56 * (den * 2 ^ q)
      ≤ 2 ^ 56 * (2 ^ (den.log2 + 1) * 2 ^ q) :=
        Nat.mul_le_mul_left _ (Nat.mul_le_mul_right _ (Nat.le_of_lt Nat.lt_log2_self))
    _ = 2 ^ (num.log2 + p) := by rw [← Nat.pow_add, ← Nat.pow_add, h]; congr 1; omega
    _ ≤ num * 2 ^ p := by
        rw [Nat.pow_add]
        exact Nat.mul_le_mul_right _ (Nat.log2_self_le (Nat.ne_of_gt hnum))

/-- Powers of two are moved from one factor of a product to another. -/
theorem mul_two_pow_eq {c den p q p' q' : Nat} (h : p + q = p' + q') :
    c * 2 ^ p * (den * 2 ^ q) = c * 2 ^ p' * den * 2 ^ q' := by
  rw [Nat.mul_mul_mul_comm, ← Nat.pow_add, h, Nat.pow_add, ← Nat.mul_assoc,
    Nat.mul_right_comm _ den]

/-- **When a quotient is rounded to infinity**: from `overflowBound` on. -/
theorem isInf_nearest_iff {num den : Nat} (hnum : 0 < num) (hden : 0 < den) :
    (nearest num den).isInf = true ↔ overflowBound * den ≤ num := by
  rw [nearest]
  obtain ⟨e, he⟩ : ∃ e : Int, e = num.log2 - den.log2 - 57 := ⟨_, rfl⟩
  rw [← he]
  have hbits : 2 ^ 56 * (den <<< e.toNat) ≤ num <<< (-e).toNat := by
    rw [Nat.shiftLeft_eq, Nat.shiftLeft_eq]
    exact two_pow_mul_le_of_exponent hnum (by omega)
  have hdivisor : 0 < den <<< e.toNat := by
    rw [Nat.shiftLeft_eq]
    exact Nat.mul_pos hden (Nat.two_pow_pos _)
  refine (isInf_pack_roundWithAccuracy e _ .positive
    ((Nat.le_div_iff_mul_le hdivisor).mpr hbits)).trans ?_
  rw [Nat.le_div_iff_mul_le hdivisor]
  rw [Nat.shiftLeft_eq, Nat.shiftLeft_eq] at hbits ⊢
  by_cases hlarge : 970 < e
  · refine iff_of_true (.inl hlarge) ?_
    rw [show (-e).toNat = 0 by omega, Nat.pow_zero, Nat.mul_one] at hbits
    calc overflowBound * den ≤ 2 ^ 54 * 2 ^ 970 * den := Nat.mul_le_mul_right _ overflowBound_le
      _ ≤ 2 ^ 56 * (den * 2 ^ e.toNat) := by
        rw [Nat.mul_assoc, Nat.mul_comm (2 ^ 970)]
        gcongr <;> omega
      _ ≤ num := hbits
  · -- the two inequalities differ by a power of two on both sides
    have hexponents : (970 - e).toNat + e.toNat = 970 + (-e).toNat := by omega
    rw [mul_two_pow_eq hexponents, ← overflowBound, or_iff_right hlarge]
    exact Nat.mul_le_mul_right_iff (Nat.two_pow_pos _)

/-- **When a numeral is read as infinite**: from `overflowBound` on, and only then. -/
theorem isInf_toFloat_iff (d : Decimal) :
    d.toFloat.isInf = true ↔ overflowBound * 10 ^ d.places ≤ d.significand := by
  have hten : 0 < 10 ^ d.places := Nat.pow_pos (by decide)
  rw [toFloat]
  by_cases hzero : d.significand = 0
  · rw [if_pos hzero, hzero, Nat.le_zero]
    exact iff_of_false Bool.false_ne_true (Nat.ne_of_gt (Nat.mul_pos overflowBound_pos hten))
  · rw [if_neg hzero]
    exact isInf_nearest_iff (Nat.pos_of_ne_zero hzero) hten

end Decimal

end StackScript

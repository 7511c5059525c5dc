import Mathlib
import StackScript.Number

/-!
# Doubles, packed and unpacked

A double is given by 64 bits, and it is computed with by unpacking them. The library knows that
doubles that unpack alike are the same. What is needed beyond that is the other direction: a
mantissa and an exponent that a double can have (`IsCanonical`) survive being packed
(`unpack_pack`), and a finite double has no others (`isCanonical_of_unpack`). It follows that
negation and absolute value do what they say (`unpack_neg`, `unpack_abs`), and that a double is its
absolute value with its sign in front (`signed_abs`).
-/

namespace StackScript.Double

open Float.Model (Format UnpackedFloat)
open Float.Model.UnpackedFloat (Sign packComponents unpackSign unpackExponent unpackMantissa
  unpackSign_packComponents unpackMantissa_packComponents unpackExponent_packComponents
  packComponents_unpackSign_unpackExponent_unpackMantissa)

/-- The mantissas and exponents of the finite doubles other than zero: the mantissa has 53 bits, or
fewer if the exponent is the least there is. -/
structure IsCanonical (m : Nat) (e : Int) : Prop where
  /-- the mantissa is not zero -/
  pos : 0 < m
  /-- the mantissa has at most 53 bits -/
  mantissa_lt : m < 2 ^ 53
  /-- the least exponent -/
  le_exponent : -1074 ≤ e
  /-- the largest exponent -/
  exponent_le : e ≤ 971
  /-- the mantissa has no fewer bits unless it must -/
  full : 2 ^ 52 ≤ m ∨ e = -1074

/-! ## Unpacking parts -/

section Unpack

variable (s : Sign) {biased : BitVec 11} {fraction : BitVec 52}

theorem isCanonical_subnormal (h : fraction ≠ 0#52) : IsCanonical fraction.toNat (-1074) where
  pos := Nat.pos_of_ne_zero fun hzero => h (BitVec.eq_of_toNat_eq hzero)
  mantissa_lt := Nat.lt_trans fraction.isLt (by decide)
  le_exponent := Int.le_refl _
  exponent_le := by decide
  full := .inr rfl

theorem isCanonical_normal (h₀ : biased ≠ 0#11) (h₁ : biased ≠ -1#11) :
    IsCanonical (2 ^ 52 + fraction.toNat) (biased.toNat - 1075) := by
  have hpos : biased.toNat ≠ 0 := fun hzero => h₀ (BitVec.eq_of_toNat_eq hzero)
  have hmax : biased.toNat ≠ 2047 := fun hones => h₁ (BitVec.eq_of_toNat_eq hones)
  have hbiased := biased.isLt
  have hfraction := fraction.isLt
  exact ⟨by omega, by omega, by omega, by omega, by omega⟩

theorem unpack_infinity :
    UnpackedFloat.unpack .binary64 (packComponents .binary64 s (-1#11) 0#52) = .infinity s := by
  rw [UnpackedFloat.unpack]
  simp only [unpackMantissa_packComponents, unpackExponent_packComponents,
    unpackSign_packComponents, Sign.ofBitVec_toBitVec]
  rfl

theorem unpack_notANumber (h : fraction ≠ 0#52) :
    UnpackedFloat.unpack .binary64 (packComponents .binary64 s (-1#11) fraction) =
      .notANumber := by
  rw [UnpackedFloat.unpack]
  simp only [unpackMantissa_packComponents, unpackExponent_packComponents]
  rw [if_pos trivial, if_neg h]

theorem unpack_subnormal (h : fraction ≠ 0#52) :
    ∃ hpos, UnpackedFloat.unpack .binary64 (packComponents .binary64 s 0#11 fraction) =
      .finite s fraction.toNat (-1074) hpos := by
  rw [UnpackedFloat.unpack]
  simp only [unpackMantissa_packComponents, unpackExponent_packComponents,
    unpackSign_packComponents, Sign.ofBitVec_toBitVec]
  rw [if_neg (by decide), if_pos trivial, dif_neg h]
  exact ⟨(isCanonical_subnormal h).pos, rfl⟩

theorem unpack_normal (h₀ : biased ≠ 0#11) (h₁ : biased ≠ -1#11) :
    ∃ hpos, UnpackedFloat.unpack .binary64 (packComponents .binary64 s biased fraction) =
      .finite s (2 ^ 52 + fraction.toNat) (biased.toNat - 1075) hpos := by
  have hmantissa : (1#1 ++ fraction).toNat = 2 ^ 52 + fraction.toNat := by
    rw [BitVec.toNat_append, ← Nat.shiftLeft_add_eq_or_of_lt fraction.isLt]
    rfl
  rw [UnpackedFloat.unpack]
  simp only [unpackMantissa_packComponents, unpackExponent_packComponents,
    unpackSign_packComponents, Sign.ofBitVec_toBitVec]
  rw [if_neg h₁, if_neg h₀]
  simp only [hmantissa]
  exact ⟨by omega, rfl⟩

end Unpack

/-- What a double with the given parts can unpack to. -/
inductive Unpacked (s : Sign) : BitVec 11 → BitVec 52 → UnpackedFloat → Prop where
  | zero : Unpacked s 0#11 0#52 (.zero s)
  | infinity : Unpacked s (-1#11) 0#52 (.infinity s)
  | notANumber {fraction} (h : fraction ≠ 0#52) : Unpacked s (-1#11) fraction .notANumber
  | subnormal {fraction} (h : fraction ≠ 0#52) (hpos : 0 < fraction.toNat) :
    Unpacked s 0#11 fraction (.finite s fraction.toNat (-1074) hpos)
  | normal {biased fraction} (h₀ : biased ≠ 0#11) (h₁ : biased ≠ -1#11)
    (hpos : 0 < 2 ^ 52 + fraction.toNat) :
    Unpacked s biased fraction (.finite s (2 ^ 52 + fraction.toNat) (biased.toNat - 1075) hpos)

/-- A double unpacks to one of the things listed. -/
theorem unpacked_packComponents (s : Sign) (biased : BitVec 11) (fraction : BitVec 52) :
    Unpacked s biased fraction
      (UnpackedFloat.unpack .binary64 (packComponents .binary64 s biased fraction)) := by
  by_cases h₁ : biased = -1#11
  · subst h₁
    by_cases hzero : fraction = 0#52
    · subst hzero
      rw [unpack_infinity]
      exact .infinity
    · rw [unpack_notANumber s hzero]
      exact .notANumber hzero
  by_cases h₀ : biased = 0#11
  · subst h₀
    by_cases hzero : fraction = 0#52
    · subst hzero
      rw [show packComponents .binary64 s 0#11 0#52 = UnpackedFloat.packedZero .binary64 s from rfl,
        UnpackedFloat.unpack_packedZero]
      exact .zero
    · obtain ⟨hpos, hunpack⟩ := unpack_subnormal s hzero
      rw [hunpack]
      exact .subnormal hzero hpos
  · obtain ⟨hpos, hunpack⟩ := unpack_normal s h₀ h₁
    rw [hunpack]
    exact .normal h₀ h₁ hpos

/-! ## Packing -/

section Pack

variable (s : Sign) {m : Nat} {e : Int} (hpos : 0 < m)

theorem pack_normal (h : IsCanonical m e) (hfull : 2 ^ 52 ≤ m) :
    UnpackedFloat.pack .binary64 (.finite s m e hpos) =
      packComponents .binary64 s (BitVec.ofNat 11 (e + 1075).toNat) (BitVec.ofNat 52 m) := by
  have hlog : m.log2 = 52 := (Nat.log2_eq_iff (Nat.ne_of_gt hpos)).mpr ⟨hfull, h.mantissa_lt⟩
  have hbiased : e + Format.binary64.exponentBias + (52 : Nat) = e + 1075 := by
    rw [show Format.binary64.exponentBias = 1023 from rfl]
    omega
  -- the biased exponent is below the one of infinity
  have hroom : ¬ 2 ^ 11 ≤ (e + 1075).toNat + 1 := by
    have := h.exponent_le
    omega
  rw [UnpackedFloat.pack]
  dsimp only
  rw [hlog, hbiased, if_neg hroom]
  exact if_pos rfl

theorem pack_subnormal (h : m < 2 ^ 52) :
    UnpackedFloat.pack .binary64 (.finite s m (-1074) hpos) =
      packComponents .binary64 s 0#11 (BitVec.ofNat 52 m) := by
  have hlog : m.log2 < 52 := (Nat.log2_lt (Nat.ne_of_gt hpos)).mpr h
  have hbits : ¬ m.log2 + 1 = Format.binary64.mantissaBits := by
    rw [show Format.binary64.mantissaBits = 53 from rfl]
    omega
  rw [UnpackedFloat.pack]
  dsimp only
  rw [if_neg (by decide), if_neg hbits]

/-- A mantissa and exponent that a double can have survive being packed. -/
theorem unpack_pack (h : IsCanonical m e) :
    (Float.Model.pack (.finite s m e hpos)).unpack = .finite s m e hpos := by
  change UnpackedFloat.unpack .binary64 (UnpackedFloat.pack .binary64 (.finite s m e hpos)) = _
  by_cases hfull : 2 ^ 52 ≤ m
  · have hle := h.le_exponent
    have hge := h.exponent_le
    have hbiased : (BitVec.ofNat 11 (e + 1075).toNat).toNat = (e + 1075).toNat := by
      rw [BitVec.toNat_ofNat, Nat.mod_eq_of_lt (by omega)]
    have hfraction : 2 ^ 52 + (BitVec.ofNat 52 m).toNat = m := by
      have hlt := h.mantissa_lt
      rw [BitVec.toNat_ofNat]
      omega
    -- the exponent is neither that of the numbers around zero nor that of infinity
    have h₀ : BitVec.ofNat 11 (e + 1075).toNat ≠ 0#11 := by
      intro heq
      rw [heq] at hbiased
      change 0 = _ at hbiased
      omega
    have h₁ : BitVec.ofNat 11 (e + 1075).toNat ≠ -1#11 := by
      intro heq
      rw [heq] at hbiased
      change 2047 = _ at hbiased
      omega
    obtain ⟨hpos', hunpack⟩ := unpack_normal s h₀ h₁
    rw [pack_normal s hpos h hfull, hunpack]
    congr 1
    rw [hbiased]
    omega
  · obtain rfl : e = -1074 := h.full.resolve_left hfull
    have hfraction : (BitVec.ofNat 52 m).toNat = m := by
      rw [BitVec.toNat_ofNat]
      omega
    have hne : BitVec.ofNat 52 m ≠ 0#52 := by
      intro heq
      rw [heq] at hfraction
      change 0 = m at hfraction
      omega
    obtain ⟨hpos', hunpack⟩ := unpack_subnormal s hne
    rw [pack_subnormal s hpos (by omega), hunpack]
    congr 1

end Pack

/-! ## What doubles unpack to -/

/-- Doubles that unpack alike are the same. -/
theorem eq_of_unpack_eq {x y : Float} (h : x.toModel.unpack = y.toModel.unpack) : x = y :=
  Float.toBits_inj.mp <| UInt64.toBitVec_inj.mp <|
    (UnpackedFloat.unpack_inj_of_valid x.toModel.valid y.toModel.valid).mp h

/-- What a finite double other than zero unpacks to is what a double can have. -/
theorem isCanonical_of_unpack {x : Float.Model} {s : Sign} {m : Nat} {e : Int} {hpos : 0 < m}
    (h : x.unpack = .finite s m e hpos) : IsCanonical m e := by
  let b : BitVec Format.binary64.numBits := x.toBits.toBitVec
  have hcase := unpacked_packComponents (Sign.ofBitVec (unpackSign b)) (unpackExponent b)
    (unpackMantissa b)
  rw [packComponents_unpackSign_unpackExponent_unpackMantissa b,
    show UnpackedFloat.unpack .binary64 b = _ from h] at hcase
  generalize unpackExponent b = biased at hcase
  generalize unpackMantissa b = fraction at hcase
  cases hcase with
  | subnormal hne _ => exact isCanonical_subnormal hne
  | normal h₀ h₁ _ => exact isCanonical_normal h₀ h₁

/-- Only an exponent of all ones makes something that is not a number. -/
theorem isNaN_packComponents {s : Sign} {biased : BitVec 11} {fraction : BitVec 52}
    (h : biased ≠ -1#11) :
    (UnpackedFloat.unpack .binary64 (packComponents .binary64 s biased fraction)).isNaN =
      false := by
  have hcase := unpacked_packComponents s biased fraction
  generalize UnpackedFloat.unpack .binary64 _ = f at hcase
  cases hcase with
  | notANumber _ => exact absurd rfl h
  | _ => rfl

/-- However large its mantissa and exponent are, something finite is not packed as NaN. -/
theorem isNaN_pack_finite (s : Sign) {m : Nat} {e : Int} (hpos : 0 < m) :
    (Float.Model.pack (.finite s m e hpos)).isNaN = false := by
  change (UnpackedFloat.unpack .binary64 (UnpackedFloat.pack .binary64 _)).isNaN = false
  rw [UnpackedFloat.pack]
  dsimp only
  generalize (e + Format.binary64.exponentBias + (52 : Nat)).toNat = biased
  -- an exponent that is too large is packed as infinity
  by_cases hlarge : 2 ^ 11 ≤ biased + 1
  · rw [if_pos hlarge]
    exact congrArg UnpackedFloat.isNaN (unpack_infinity s)
  · have hne : BitVec.ofNat 11 biased ≠ -1#11 := by
      intro heq
      have hbiased := congrArg BitVec.toNat heq
      change biased % 2 ^ 11 = 2047 at hbiased
      omega
    rw [if_neg hlarge]
    split
    · exact isNaN_packComponents hne
    · exact isNaN_packComponents (by decide)

/-- Whether a double can unpack to this: a mantissa and exponent in it are those of a double. -/
def IsUnpacked (f : UnpackedFloat) : Prop :=
  ∀ s m e hpos, f = .finite s m e hpos → IsCanonical m e

/-- Whatever a double can unpack to survives being packed. -/
theorem IsUnpacked.unpack_pack {f : UnpackedFloat} (h : IsUnpacked f) :
    (Float.Model.pack f).unpack = f := by
  cases f with
  | zero s => exact UnpackedFloat.unpack_packedZero
  | infinity s => exact unpack_infinity s
  | notANumber => exact UnpackedFloat.unpack_packedNaN
  | finite s m e hpos => exact Double.unpack_pack s hpos (h s m e hpos rfl)

/-! ## Sign and comparison -/

theorem unpack_neg (x : Float) : (-x).toModel.unpack = x.toModel.unpack.neg := by
  refine IsUnpacked.unpack_pack (f := x.toModel.unpack.neg) fun s m e hpos h => ?_
  rcases hunpack : x.toModel.unpack with _ | _ | _ | ⟨t, m', e', hpos'⟩ <;> rw [hunpack] at h <;>
    cases h
  exact isCanonical_of_unpack hunpack

theorem unpack_abs (x : Float) : x.abs.toModel.unpack = x.toModel.unpack.abs := by
  refine IsUnpacked.unpack_pack (f := x.toModel.unpack.abs) fun s m e hpos h => ?_
  rcases hunpack : x.toModel.unpack with _ | _ | _ | ⟨t, m', e', hpos'⟩ <;> rw [hunpack] at h <;>
    cases h
  exact isCanonical_of_unpack hunpack

theorem isNaN_neg (x : Float) : (-x).isNaN = x.isNaN := by
  change (-x).toModel.unpack.isNaN = x.toModel.unpack.isNaN
  rw [unpack_neg]
  cases x.toModel.unpack <;> rfl

/-- A double is its absolute value with its sign in front. -/
theorem signed_abs (x : Float) (h : x.isNaN = false) :
    (if Number.isNegative x then -x.abs else x.abs) = x := by
  apply eq_of_unpack_eq
  have hunpack : (if Number.isNegative x then -x.abs else x.abs).toModel.unpack =
      if Number.isNegative x then x.toModel.unpack.abs.neg else x.toModel.unpack.abs := by
    split
    · rw [unpack_neg, unpack_abs]
    · exact unpack_abs x
  change x.toModel.unpack.isNaN = false at h
  rw [hunpack, Number.isNegative]
  generalize x.toModel.unpack = f at h ⊢
  cases f with
  | notANumber => cases h
  | infinity s => cases s <;> rfl
  | zero s => cases s <;> rfl
  | finite s m e hpos => cases s <;> rfl

/-- A double equals itself unless it is not a number. -/
theorem beq_self {x : Float} (h : x.isNaN = false) : (x == x) = true := by
  rw [Float.isNaN_eq_decide_eq_nan, decide_eq_false_iff_not] at h
  exact Float.beq_self_iff.mpr h

/-- A double that equals a finite one other than zero is that one. -/
theorem eq_of_beq {x y : Float} {s : Sign} {m : Nat} {e : Int} {hpos : 0 < m}
    (hy : y.toModel.unpack = .finite s m e hpos) (h : (x == y) = true) : x = y := by
  apply eq_of_unpack_eq
  change x.toModel.unpack.beq y.toModel.unpack = true at h
  rw [UnpackedFloat.beq_iff_ne_notANumber_and_eq] at h
  obtain ⟨-, -, heq | ⟨-, hzero⟩ | ⟨-, hzero⟩⟩ := h
  · exact heq
  · rw [hy] at hzero
    cases hzero
  · rw [hy] at hzero
    cases hzero

end StackScript.Double

import ExportWatch.Proofs.Decimal.Bits
import ExportWatch.Proofs.Decimal.ReadBack

/-! Doubles as their arithmetic takes them apart. The parts are the sign, the significand and the
exponent that the texts of doubles are made from. -/

namespace ExportWatch.Decimal

open Float.Model UnpackedFloat

def signOf (negative : Bool) : Sign :=
  if negative then .negative else .positive

def unpacked (negative : Bool) (significand : Nat) (exponent : Int) : UnpackedFloat :=
  if filled : 0 < significand then .finite (signOf negative) significand exponent filled
  else .zero (signOf negative)

section Bits

variable (bits : UInt64)

theorem toNat_leading :
    (1#1 ++ @unpackMantissa .binary64 bits.toBitVec).toNat =
      2 ^ 52 + bits.toNat % 2 ^ 52 := by
  rw [← toNat_unpackMantissa, BitVec.toNat_append, ← Nat.shiftLeft_add_eq_or_of_lt (BitVec.isLt _),
    Nat.shiftLeft_eq]
  rfl

theorem ofBitVec_unpackSign :
    Sign.ofBitVec (@unpackSign .binary64 bits.toBitVec) =
      signOf (decide (2 ^ 63 ≤ bits.toNat)) := by
  have small := bits.toNat_lt
  have bit : (@unpackSign .binary64 bits.toBitVec).toNat = bits.toNat / 2 ^ 63 % 2 := by
    rw [unpackSign_def, BitVec.extractLsb'_toNat, Nat.shiftRight_eq_div_pow]
    rfl
  have zero : (0#1).toNat = 0 := rfl
  rw [Sign.ofBitVec, signOf]
  simp only [← BitVec.toNat_inj, bit, decide_eq_true_eq, zero]
  split <;> split <;> first | rfl | omega

/-- Only the bits of what is no number are changed. -/
theorem toBits_ofBits (number : bits.toNat / 2 ^ 52 % 2 ^ 11 ≠ 2047) :
    (Float.ofBits bits).toBits = bits := by
  have notNaN : @isNaNBits .binary64 bits.toBitVec = false := by
    rw [isNaNBits, decide_eq_false_iff_not, ← BitVec.toNat_inj, toNat_unpackExponent]
    exact fun isNaN => number isNaN.1
  apply UInt64.toBitVec_inj.mp
  change UnpackedFloat.pack .binary64 (UnpackedFloat.unpack .binary64 bits.toBitVec) = _
  rw [pack_unpack, notNaN]
  rfl

end Bits

section Canonical

variable {value : Float} {negative : Bool} {significand : Nat} {exponent : Int}

theorem unpack_of_ofFloat
    (finite : Magnitude.ofFloat value = .finite negative significand exponent) :
    value.toModel.unpack = unpacked negative significand exponent := by
  have last : (-1#11).toNat = 2047 := rfl
  have none : (0#11).toNat = 0 := rfl
  have empty : (0#52).toNat = 0 := rfl
  have bias : Format.binary64.exponentBias = 1023 := rfl
  have leading := toNat_leading value.toBits
  change UnpackedFloat.unpack .binary64 value.toBits.toBitVec = _
  unfold Magnitude.ofFloat at finite
  unfold UnpackedFloat.unpack
  simp only [Nat.pow_eq] at finite
  simp only [ofBitVec_unpackSign, ← BitVec.toNat_inj, toNat_unpackExponent, toNat_unpackMantissa,
    leading, last, none, empty, bias]
  split at finite
  · split at finite <;> cases finite
  · next notLast =>
      rw [if_neg notLast]
      split at finite
      · next first =>
          cases finite
          rw [if_pos first, unpacked]
          by_cases zero : value.toBits.toNat % 2 ^ 52 = 0
          · rw [dif_pos zero, dif_neg (Nat.not_lt.mpr zero.le)]
          · rw [dif_neg zero, dif_pos (Nat.pos_of_ne_zero zero), first]
            rfl
      · next notFirst =>
          cases finite
          rw [if_neg notFirst, unpacked, dif_pos (Nat.add_pos_left (by decide) _)]
          rfl

/-- The double of a significand and an exponent has these parts. -/
theorem ofFloat_ofBits (canonical : Canonical significand exponent) :
    Magnitude.ofFloat (Float.ofBits (UInt64.ofNat (doubleBits negative significand exponent))) =
      .finite negative significand exponent := by
  rcases canonical with ⟨small, least, greatest, normal⟩
  have limit : leastExponent = -1074 := rfl
  generalize written : doubleBits negative significand exponent = bits
  unfold doubleBits at written
  simp only [Nat.pow_eq] at written
  have bounded : bits < 2 ^ 64 := by
    split at written <;> omega
  have toNat : (UInt64.ofNat bits).toNat = bits := UInt64.toNat_ofNat_of_lt' bounded
  have notLast : bits / 2 ^ 52 % 2 ^ 11 ≠ 2047 := by
    split at written <;> omega
  have sign : decide (2 ^ 63 ≤ bits) = negative := by
    cases negative <;> simp at written ⊢ <;> omega
  unfold Magnitude.ofFloat
  simp only [Nat.pow_eq]
  rw [toBits_ofBits _ (by rwa [toNat]), toNat, if_neg notLast, sign]
  split
  · next first =>
      rw [Magnitude.finite.injEq]
      refine ⟨rfl, ?_, ?_⟩ <;> split at written <;> omega
  · next notFirst =>
      rw [Magnitude.finite.injEq]
      refine ⟨rfl, ?_, ?_⟩ <;> split at written <;> omega

/-- What lies on a double is read as the double. -/
theorem holds_self (filled : 0 < significand) :
    (Interval.around significand exponent).Holds (significand * 2 ^ exponent) := by
  have power : (2 : ℚ) ^ exponent ≠ 0 := by positivity
  have low : (Interval.around significand exponent).low < 4 * significand := by
    simp only [Interval.around]
    split <;> omega
  apply holds_of_lt
  · rw [mul_div_cancel_right₀ _ power]
    exact_mod_cast low
  · rw [mul_div_cancel_right₀ _ power]
    linarith

end Canonical

end ExportWatch.Decimal

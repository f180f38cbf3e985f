import ExportWatch.Proofs.Decimal.Finite

/-! Operations on doubles that give a number whenever they are given numbers. A quotient is a
number as long as the divisor is finite and not zero. -/

namespace ExportWatch.Decimal

open Float.Model UnpackedFloat

/-! Packing. -/

theorem isNaN_unpack_packComponents (sign : Sign) {exponent : BitVec 11} {mantissa : BitVec 52}
    (regular : exponent = -1#11 → mantissa = 0#52) :
    (UnpackedFloat.unpack .binary64
      (@packComponents .binary64 sign exponent mantissa)).isNaN = false := by
  apply isNaN_unpack_of_exponent
  rw [unpackExponent_packComponents, unpackMantissa_packComponents]
  exact regular

/-- An exponent that is too great makes infinity, so that no other fills its field. -/
theorem isNaN_unpack_pack_finite (sign : Sign) {significand : Nat} {exponent : Int}
    (filled : 0 < significand) :
    (UnpackedFloat.unpack .binary64 (UnpackedFloat.pack .binary64
      (.finite sign significand exponent filled))).isNaN = false := by
  unfold UnpackedFloat.pack
  dsimp only
  split
  · exact isNaN_unpack_packComponents sign fun _ => rfl
  · next small =>
      split
      · refine isNaN_unpack_packComponents sign fun last => absurd ?_ small
        have all := congrArg BitVec.toNat last
        have field : (-1#11).toNat = 2047 := rfl
        rw [BitVec.toNat_ofNat, field] at all
        have least := Nat.mod_le
          (exponent + Format.binary64.exponentBias +
            Format.binary64.mantissaBitsWithoutImplicit).toNat (2 ^ Format.binary64.exponentBits)
        rw [all] at least
        exact Nat.succ_le_succ least
      · exact isNaN_unpack_packComponents sign fun last => absurd last (by decide)

/-- Packing makes no number into anything else. -/
theorem isNaN_pack {parts : UnpackedFloat} (number : parts.isNaN = false) :
    (Float.ofModel (.pack parts)).isNaN = false := by
  change (UnpackedFloat.unpack .binary64 (UnpackedFloat.pack .binary64 parts)).isNaN = false
  cases parts with
  | notANumber => cases number
  | infinity sign => exact isNaN_unpack_packComponents sign fun _ => rfl
  | zero sign => exact isNaN_unpack_packComponents sign fun _ => rfl
  | finite sign significand exponent filled => exact isNaN_unpack_pack_finite sign filled

/-! Rounding. -/

theorem isNaN_roundWithAccuracy (spec : Format) (sign : Sign) (significand : Nat) (exponent : Int)
    (accuracy : Accuracy) :
    (roundWithAccuracy spec sign significand exponent accuracy).isNaN = false := by
  unfold roundWithAccuracy
  dsimp only
  rw [apply_dite UnpackedFloat.isNaN]
  exact ite_self false

theorem isNaN_ofNat (spec : Format) (size : Nat) : (UnpackedFloat.ofNat spec size).isNaN = false := by
  unfold UnpackedFloat.ofNat UnpackedFloat.ofInt UnpackedFloat.normalize
  split
  · exact isNaN_roundWithAccuracy _ _ _ _ _
  · rfl
  · exact isNaN_roundWithAccuracy _ _ _ _ _

theorem isNaN_toFloat (word : UInt64) : word.toFloat.isNaN = false :=
  isNaN_pack (isNaN_ofNat _ _)

theorem isNaN_neg {value : Float} (number : value.isNaN = false) : (-value).isNaN = false := by
  apply isNaN_pack
  change value.toModel.unpack.isNaN = false at number
  cases parts : value.toModel.unpack with
  | notANumber =>
      rw [parts] at number
      cases number
  | _ => rfl

theorem isNaN_div {first second : Float} (number : first.isNaN = false)
    (finite : isFinite second = true) (filled : (second == 0) = false) :
    (first / second).isNaN = false := by
  apply isNaN_pack
  have divisorParts := isFinite_unpack finite
  change first.toModel.unpack.isNaN = false at number
  cases divisor : second.toModel.unpack with
  | notANumber =>
      rw [divisor] at divisorParts
      cases divisorParts
  | infinity _ =>
      rw [divisor] at divisorParts
      cases divisorParts
  | zero _ =>
      have zero : (second == 0) = true := by
        rw [beq_iff_order, order, divisor]
        rfl
      rw [filled] at zero
      cases zero
  | finite _ _ _ _ =>
      cases dividend : first.toModel.unpack with
      | notANumber =>
          rw [dividend] at number
          cases number
      | infinity _ => rfl
      | zero _ => rfl
      | finite _ _ _ _ => exact isNaN_roundWithAccuracy _ _ _ _ _

/-! Fractions of natural numbers. -/

theorem isNaN_ofBits {bits : UInt64}
    (regular : bits.toNat / 2 ^ 52 % 2 ^ 11 = 2047 → bits.toNat % 2 ^ 52 = 0) :
    (Float.ofBits bits).isNaN = false := by
  have last : (-1#11).toNat = 2047 := rfl
  have empty : (0#52).toNat = 0 := rfl
  apply isNaN_pack
  apply isNaN_unpack_of_exponent
  rw [← BitVec.toNat_inj, toNat_unpackExponent, ← BitVec.toNat_inj, toNat_unpackMantissa, last,
    empty]
  exact regular

theorem nearestBits_le (numerator denominator : Nat) :
    nearestBits numerator denominator ≤ 2047 * 2 ^ 52 := by
  rw [nearestBits]
  split
  · exact Nat.zero_le _
  · exact Nat.min_le_left _ _

theorem isNaN_nearestFloat (negative : Bool) (numerator denominator : Nat) :
    (nearestFloat negative numerator denominator).isNaN = false := by
  have small := nearestBits_le numerator denominator
  rw [nearestFloat]
  simp only [Nat.pow_eq]
  generalize nearestBits numerator denominator = bits at small
  have signs : (if negative then 2 ^ 63 else 0) = 2 ^ 63 ∨ (if negative then 2 ^ 63 else 0) = 0 := by
    cases negative <;> simp
  generalize (if negative then 2 ^ 63 else 0) = sign at signs
  have toNat : (UInt64.ofNat (sign + bits)).toNat = sign + bits :=
    UInt64.toNat_ofNat_of_lt' (by rw [UInt64.size]; omega)
  apply isNaN_ofBits
  rw [toNat]
  omega

end ExportWatch.Decimal

import ExportWatch.Decimal.Binary
import Mathlib.Algebra.Group.Nat.Defs

/-! Where the exponent and the significand stand in the bits of a double, and which bits are those
of a finite double or of a number. -/

namespace ExportWatch.Decimal

open Float.Model UnpackedFloat

section Bits

variable (bits : UInt64)

theorem toNat_unpackExponent :
    (@unpackExponent .binary64 bits.toBitVec).toNat = bits.toNat / 2 ^ 52 % 2 ^ 11 := by
  rw [unpackExponent, BitVec.toNat_cast, BitVec.extractLsb_toNat, Nat.shiftRight_eq_div_pow]
  rfl

theorem toNat_unpackMantissa :
    (@unpackMantissa .binary64 bits.toBitVec).toNat = bits.toNat % 2 ^ 52 := by
  rw [unpackMantissa, BitVec.toNat_cast, BitVec.extractLsb_toNat, Nat.shiftRight_zero]
  rfl

end Bits

theorem isFinite_unpack_of_exponent {bits : BitVec 64}
    (regular : @unpackExponent .binary64 bits ≠ -1#11) :
    (UnpackedFloat.unpack .binary64 bits).isFinite = true := by
  unfold UnpackedFloat.unpack
  dsimp only
  rw [if_neg regular]
  by_cases least : @unpackExponent .binary64 bits = 0#11
  · rw [if_pos least]
    by_cases empty : @unpackMantissa .binary64 bits = 0#52
    · rw [dif_pos empty]
      rfl
    · rw [dif_neg empty]
      rfl
  · rw [if_neg least]
    rfl

/-- With the last exponent, only infinity is a number. -/
theorem isNaN_unpack_of_exponent {bits : BitVec 64}
    (regular : @unpackExponent .binary64 bits = -1#11 → @unpackMantissa .binary64 bits = 0#52) :
    (UnpackedFloat.unpack .binary64 bits).isNaN = false := by
  by_cases last : @unpackExponent .binary64 bits = -1#11
  · unfold UnpackedFloat.unpack
    dsimp only
    rw [if_pos last, if_pos (regular last)]
    rfl
  · have finite := isFinite_unpack_of_exponent last
    cases parts : UnpackedFloat.unpack .binary64 bits with
    | notANumber =>
        rw [parts] at finite
        cases finite
    | _ => rfl

theorem isFinite_unpack {value : Float} (finite : isFinite value = true) :
    value.toModel.unpack.isFinite = true := by
  have last : (-1#11).toNat = 2047 := rfl
  have regular : @unpackExponent .binary64 value.toBits.toBitVec ≠ -1#11 := by
    rw [Ne, ← BitVec.toNat_inj, toNat_unpackExponent, last]
    intro isLast
    unfold isFinite Magnitude.ofFloat at finite
    simp only [Nat.pow_eq] at finite
    rw [if_pos isLast] at finite
    split at finite <;> cases finite
  exact isFinite_unpack_of_exponent regular

end ExportWatch.Decimal

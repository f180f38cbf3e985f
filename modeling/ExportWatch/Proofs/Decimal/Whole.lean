import ExportWatch.Proofs.Decimal.Unpacked

/-! Whole numbers below `2 ^ 53` as doubles. Their sums and products are exact: the significand of
the result loses nothing but zeros. -/

namespace ExportWatch.Decimal

open Float.Model UnpackedFloat

/-! Rounding a significand that has only zeros too many. -/

section Rounding

variable {significand : Nat} {exponent : Int} {shift : Nat}

theorem log2_of_normal (normal : 2 ^ 52 ≤ significand) (small : significand < 2 ^ 53)
    (shift : Nat) : (significand * 2 ^ shift).log2 = 52 + shift := by
  have positive : 0 < 2 ^ shift := Nat.two_pow_pos shift
  rw [Nat.log2_eq_iff (Nat.mul_ne_zero (by omega) positive.ne'), Nat.add_right_comm, Nat.pow_add,
    Nat.pow_add]
  exact ⟨Nat.mul_le_mul_right _ normal, Nat.mul_lt_mul_of_pos_right small positive⟩

theorem shiftRight_of_zeros (significand shift : Nat) :
    ExtendedMantissa.mk (significand * 2 ^ shift) false false >>> shift =
      ExtendedMantissa.mk significand false false := by
  induction shift generalizing significand with
  | zero => rw [Nat.pow_zero, Nat.mul_one]; rfl
  | succ shift induction =>
      change (ExtendedMantissa.mk (significand * 2 ^ (shift + 1)) false false >>>
        shift).shiftRightOne = _
      rw [Nat.pow_succ', ← Nat.mul_assoc, induction, ExtendedMantissa.shiftRightOne]
      simp

theorem targetExponent_of_normal (normal : 2 ^ 52 ≤ significand) (small : significand < 2 ^ 53)
    (least : leastExponent ≤ exponent + shift) :
    Format.binary64.targetExponent (totalExponent (significand * 2 ^ shift) exponent) =
      exponent + shift := by
  have limit : leastExponent = -1074 := rfl
  have bits : (Format.binary64.mantissaBits : Int) = 53 := rfl
  have lowest : Format.binary64.minExponent = -1074 := rfl
  rw [Format.targetExponent, totalExponent, log2_of_normal normal small, bits, lowest]
  omega

theorem shiftToTargetExponent_of_zeros (normal : 2 ^ 52 ≤ significand)
    (small : significand < 2 ^ 53) (least : leastExponent ≤ exponent + shift) :
    shiftToTargetExponent .binary64 (significand * 2 ^ shift) exponent .exact =
      (ExtendedMantissa.mk significand false false, exponent + shift) := by
  have places : (exponent + shift - exponent).toNat = shift := by omega
  rw [shiftToTargetExponent, targetExponent_of_normal normal small least, shiftToExponent, places,
    ExtendedMantissa.ofMantissaAndAccuracy, shiftRight_of_zeros]

theorem roundWithAccuracy_of_zeros (sign : Sign) (normal : 2 ^ 52 ≤ significand)
    (small : significand < 2 ^ 53) (least : leastExponent ≤ exponent + shift) :
    roundWithAccuracy .binary64 sign (significand * 2 ^ shift) exponent .exact =
      .finite sign significand (exponent + shift) (by omega) := by
  have again : shiftToTargetExponent .binary64 significand (exponent + shift) .exact =
      (ExtendedMantissa.mk significand false false, exponent + shift) := by
    simpa using @shiftToTargetExponent_of_zeros significand (exponent + shift) 0 normal small
      (by simpa using least)
  rw [roundWithAccuracy, shiftToTargetExponent_of_zeros normal small least]
  simp only []
  rw [ExtendedMantissa.roundedMantissa, ExtendedMantissa.accuracy, Accuracy.roundToNearestEven]
  simp only [again]
  exact dif_neg (by omega)

/-- A significand that has zeros to spare is not shifted further to the left. -/
theorem round_of_zeros (sign : Sign) (normal : 2 ^ 52 ≤ significand)
    (small : significand < 2 ^ 53) (least : leastExponent ≤ exponent + shift) :
    UnpackedFloat.round .binary64 sign (significand * 2 ^ shift) exponent =
      roundWithAccuracy .binary64 sign (significand * 2 ^ shift) exponent .exact := by
  have none : (exponent - (exponent + shift)).toNat = 0 := by omega
  rw [UnpackedFloat.round, targetExponent_of_normal normal small least, decreaseExponent, none,
    Nat.shiftLeft_zero, Nat.cast_zero, sub_zero]

end Rounding

/-! Whole numbers. -/

def wholeFloat (number : Nat) : Float :=
  nearestFloat false number 1

section Whole

variable {number other : Nat}

theorem normal_whole (filled : 0 < number) (small : number < 2 ^ 53) :
    2 ^ 52 ≤ number * 2 ^ (52 - number.log2) := by
  have size : number.log2 < 53 := (Nat.log2_lt filled.ne').mpr small
  have places : number.log2 + (52 - number.log2) = 52 := by omega
  have lower := Nat.mul_le_mul_right (2 ^ (52 - number.log2)) (Nat.log2_self_le filled.ne')
  rwa [← Nat.pow_add, places] at lower

theorem canonical_whole (filled : 0 < number) (small : number < 2 ^ 53) :
    Canonical (number * 2 ^ (52 - number.log2)) ((number.log2 : Int) - 52) := by
  have size : number.log2 < 53 := (Nat.log2_lt filled.ne').mpr small
  have limit : leastExponent = -1074 := rfl
  have places : number.log2 + 1 + (52 - number.log2) = 53 := by omega
  have upper := Nat.mul_lt_mul_of_pos_right (Nat.lt_log2_self (n := number))
    (Nat.two_pow_pos (52 - number.log2))
  rw [← Nat.pow_add, places] at upper
  exact ⟨upper, by omega, by omega, .inl (normal_whole filled small)⟩

theorem whole_value (filled : 0 < number) (small : number < 2 ^ 53) :
    ((number * 2 ^ (52 - number.log2) : Nat) : ℚ) * 2 ^ ((number.log2 : Int) - 52) = number := by
  have size : number.log2 < 53 := (Nat.log2_lt filled.ne').mpr small
  have places : (number.log2 : Int) - 52 = -((52 - number.log2 : Nat) : Int) := by omega
  rw [places, zpow_neg, zpow_natCast, Nat.cast_mul, Nat.cast_pow, Nat.cast_ofNat,
    mul_inv_cancel_right₀ (by positivity)]

theorem holds_whole (filled : 0 < number) (small : number < 2 ^ 53) :
    (Interval.around (number * 2 ^ (52 - number.log2)) ((number.log2 : Int) - 52)).Holds
      number := by
  rw [← whole_value filled small]
  exact holds_self (Nat.mul_pos filled (Nat.two_pow_pos _))

theorem wholeFloat_eq_ofBits (filled : 0 < number) (small : number < 2 ^ 53) :
    wholeFloat number = Float.ofBits (UInt64.ofNat
      (doubleBits false (number * 2 ^ (52 - number.log2)) ((number.log2 : Int) - 52))) := by
  rw [wholeFloat, nearestFloat, nearestBits_of_holds (canonical_whole filled small)
    (Nat.mul_pos filled (Nat.two_pow_pos _)).ne' Nat.one_pos
    (by simpa using holds_whole filled small)]
  rfl

theorem ofFloat_wholeFloat (filled : 0 < number) (small : number < 2 ^ 53) :
    Magnitude.ofFloat (wholeFloat number) =
      .finite false (number * 2 ^ (52 - number.log2)) ((number.log2 : Int) - 52) := by
  rw [wholeFloat_eq_ofBits filled small]
  exact ofFloat_ofBits (canonical_whole filled small)

/-- A decimal of a whole number is read as the number. -/
theorem decimalFloat_of_whole {digits : Nat} {power : Int} (small : number < 2 ^ 53)
    (same : (digits : ℚ) * 10 ^ power = number) :
    decimalFloat false digits power = wholeFloat number := by
  rcases Nat.eq_zero_or_pos number with rfl | filled
  · have ten : (10 : ℚ) ^ power ≠ 0 := by positivity
    have zero : digits = 0 := by simpa [ten] using same
    rw [zero, decimalFloat, if_pos rfl]
    rfl
  · rw [wholeFloat_eq_ofBits filled small]
    apply decimalFloat_of_holds false (canonical_whole filled small)
      (Nat.mul_pos filled (Nat.two_pow_pos _)).ne'
    rw [same]
    exact holds_whole filled small

def unpackedWhole (number : Nat) : UnpackedFloat :=
  unpacked false (number * 2 ^ (52 - number.log2)) ((number.log2 : Int) - 52)

theorem unpack_wholeFloat (small : number < 2 ^ 53) :
    (wholeFloat number).toModel.unpack = unpackedWhole number := by
  rcases Nat.eq_zero_or_pos number with rfl | filled
  · rfl
  · exact unpack_of_ofFloat (ofFloat_wholeFloat filled small)

theorem unpackedWhole_of_pos (filled : 0 < number) :
    unpackedWhole number = .finite .positive (number * 2 ^ (52 - number.log2))
      ((number.log2 : Int) - 52) (Nat.mul_pos filled (Nat.two_pow_pos _)) :=
  dif_pos (Nat.mul_pos filled (Nat.two_pow_pos _))

/-! A whole number in units of a small enough fraction is rounded to its own parts. -/

section Fine

variable {places : Nat} (filled : 0 < number) (small : number < 2 ^ 53)
  (fine : 52 ≤ number.log2 + places)
include filled small fine

theorem zeros_of_fine :
    ∃ shift : Nat, number * 2 ^ places = number * 2 ^ (52 - number.log2) * 2 ^ shift ∧
      -(places : Int) + shift = (number.log2 : Int) - 52 := by
  have size : number.log2 < 53 := (Nat.log2_lt filled.ne').mpr small
  refine ⟨number.log2 + places - 52, ?_, by omega⟩
  rw [Nat.mul_assoc, ← Nat.pow_add]
  congr 2
  omega

theorem roundWithAccuracy_whole :
    roundWithAccuracy .binary64 .positive (number * 2 ^ places) (-places) .exact =
      unpackedWhole number := by
  have canonical := canonical_whole filled small
  rcases zeros_of_fine filled small fine with ⟨shift, zeros, exponent⟩
  rw [zeros, roundWithAccuracy_of_zeros _ (normal_whole filled small) canonical.small
    (exponent ▸ canonical.least), unpackedWhole_of_pos filled]
  simp only [exponent]

theorem round_whole :
    UnpackedFloat.round .binary64 .positive (number * 2 ^ places) (-places) =
      unpackedWhole number := by
  have canonical := canonical_whole filled small
  rcases zeros_of_fine filled small fine with ⟨shift, zeros, exponent⟩
  rw [← roundWithAccuracy_whole filled small fine, zeros]
  exact round_of_zeros _ (normal_whole filled small) canonical.small (exponent ▸ canonical.least)

end Fine

theorem le_log2_mul {first second : Nat} (filled : 0 < first) (otherFilled : 0 < second) :
    first.log2 + second.log2 ≤ (first * second).log2 := by
  rw [Nat.le_log2 (Nat.mul_pos filled otherFilled).ne', Nat.pow_add]
  exact Nat.mul_le_mul (Nat.log2_self_le filled.ne') (Nat.log2_self_le otherFilled.ne')

theorem mul_unpackedWhole_of_pos (filled : 0 < number) (otherFilled : 0 < other)
    (small : number * other < 2 ^ 53) :
    UnpackedFloat.mul .binary64 (unpackedWhole number) (unpackedWhole other) =
      unpackedWhole (number * other) := by
  have numberSmall := (Nat.le_mul_of_pos_right number otherFilled).trans_lt small
  have otherSmall := (Nat.le_mul_of_pos_left other filled).trans_lt small
  have size : number.log2 < 53 := (Nat.log2_lt filled.ne').mpr numberSmall
  have otherSize : other.log2 < 53 := (Nat.log2_lt otherFilled.ne').mpr otherSmall
  have log := le_log2_mul filled otherFilled
  have significand : number * 2 ^ (52 - number.log2) * (other * 2 ^ (52 - other.log2)) =
      number * other * 2 ^ (104 - number.log2 - other.log2) := by
    rw [Nat.mul_mul_mul_comm, ← Nat.pow_add]
    congr 2
    omega
  have exponent : (number.log2 : Int) - 52 + ((other.log2 : Int) - 52) =
      -((104 - number.log2 - other.log2 : Nat) : Int) := by omega
  rw [unpackedWhole_of_pos filled, unpackedWhole_of_pos otherFilled, UnpackedFloat.mul,
    significand, exponent]
  exact roundWithAccuracy_whole (Nat.mul_pos filled otherFilled) small (by omega)

theorem mul_unpackedWhole (small : number * other < 2 ^ 53) :
    UnpackedFloat.mul .binary64 (unpackedWhole number) (unpackedWhole other) =
      unpackedWhole (number * other) := by
  rcases Nat.eq_zero_or_pos number with rfl | filled
  · rw [Nat.zero_mul]
    rcases Nat.eq_zero_or_pos other with rfl | otherFilled
    · rfl
    · rw [unpackedWhole_of_pos otherFilled]
      rfl
  · rcases Nat.eq_zero_or_pos other with rfl | otherFilled
    · rw [Nat.mul_zero, unpackedWhole_of_pos filled]
      rfl
    · exact mul_unpackedWhole_of_pos filled otherFilled small

/-- The significands of two numbers are brought to the unit of the smaller one. -/
theorem decreaseExponent_whole {low : Nat} (le : low ≤ number.log2) (small : number.log2 < 53) :
    (decreaseExponent (number * 2 ^ (52 - number.log2)) ((number.log2 : Int) - 52)
      (-((52 - low : Nat) : Int))).1 = number * 2 ^ (52 - low) := by
  have shift :
      ((number.log2 : Int) - 52 - -((52 - low : Nat) : Int)).toNat = number.log2 - low := by omega
  simp only [decreaseExponent]
  rw [shift, Nat.shiftLeft_eq, Nat.mul_assoc, ← Nat.pow_add]
  congr 2
  omega

theorem normalize_of_pos {significand : Nat} (filled : 0 < significand) (exponent : Int)
    (sign : Sign) : UnpackedFloat.normalize .binary64 significand exponent sign =
      UnpackedFloat.round .binary64 .positive significand exponent := by
  rw [UnpackedFloat.normalize, Int.compare_eq_gt.mpr (Int.natCast_pos.mpr filled)]
  rfl

theorem add_unpackedWhole_of_pos (filled : 0 < number) (otherFilled : 0 < other)
    (small : number + other < 2 ^ 53) :
    UnpackedFloat.add .binary64 (unpackedWhole number) (unpackedWhole other) =
      unpackedWhole (number + other) := by
  have size : number.log2 < 53 := (Nat.log2_lt filled.ne').mpr (by omega)
  have otherSize : other.log2 < 53 := (Nat.log2_lt otherFilled.ne').mpr (by omega)
  have log : number.log2 ≤ (number + other).log2 := by
    rw [Nat.log2_eq_log_two, Nat.log2_eq_log_two]
    exact Nat.log_mono_right (Nat.le_add_right number other)
  have least : min ((number.log2 : Int) - 52) ((other.log2 : Int) - 52) =
      -((52 - min number.log2 other.log2 : Nat) : Int) := by omega
  have aligned := decreaseExponent_whole (Nat.min_le_left number.log2 other.log2) size
  have otherAligned := decreaseExponent_whole (Nat.min_le_right number.log2 other.log2) otherSize
  rw [unpackedWhole_of_pos filled, unpackedWhole_of_pos otherFilled, UnpackedFloat.add]
  simp only [least, aligned, otherAligned, Sign.apply]
  rw [← Nat.cast_add, ← Nat.add_mul,
    normalize_of_pos (Nat.mul_pos (by omega) (Nat.two_pow_pos _))]
  exact round_whole (by omega) small (by omega)

theorem add_unpackedWhole (small : number + other < 2 ^ 53) :
    UnpackedFloat.add .binary64 (unpackedWhole number) (unpackedWhole other) =
      unpackedWhole (number + other) := by
  rcases Nat.eq_zero_or_pos number with rfl | filled
  · rw [Nat.zero_add]
    rcases Nat.eq_zero_or_pos other with rfl | otherFilled
    · rfl
    · rw [unpackedWhole_of_pos otherFilled]
      rfl
  · rcases Nat.eq_zero_or_pos other with rfl | otherFilled
    · rw [Nat.add_zero, unpackedWhole_of_pos filled]
      rfl
    · exact add_unpackedWhole_of_pos filled otherFilled small

/-! Arithmetic on whole numbers. -/

theorem eq_of_unpack {value : Float} {parts : UnpackedFloat} (same : value.toModel.unpack = parts) :
    Float.ofModel (.pack parts) = value := by
  rw [← same]
  exact value.ofBits_toBits

theorem wholeFloat_mul (small : number * other < 2 ^ 53) (numberSmall : number < 2 ^ 53)
    (otherSmall : other < 2 ^ 53) :
    wholeFloat number * wholeFloat other = wholeFloat (number * other) := by
  change Float.ofModel (.pack (UnpackedFloat.mul .binary64 (wholeFloat number).toModel.unpack
    (wholeFloat other).toModel.unpack)) = _
  rw [unpack_wholeFloat numberSmall, unpack_wholeFloat otherSmall, mul_unpackedWhole small]
  exact eq_of_unpack (unpack_wholeFloat small)

theorem wholeFloat_add (small : number + other < 2 ^ 53) :
    wholeFloat number + wholeFloat other = wholeFloat (number + other) := by
  change Float.ofModel (.pack (UnpackedFloat.add .binary64 (wholeFloat number).toModel.unpack
    (wholeFloat other).toModel.unpack)) = _
  rw [unpack_wholeFloat (by omega), unpack_wholeFloat (by omega), add_unpackedWhole small]
  exact eq_of_unpack (unpack_wholeFloat small)

end Whole

end ExportWatch.Decimal

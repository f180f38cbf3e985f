import ExportWatch.Proofs.Decimal.Shortest
import Mathlib.Algebra.Order.Field.Power
import Mathlib.Data.Int.Log
import Mathlib.Data.Rat.Floor
import Mathlib.Tactic.FieldSimp
import Mathlib.Tactic.Linarith
import Mathlib.Tactic.Positivity

/-! Fractions that are read as a given double. What lies in the interval around a double is nearest
to that double, so reading it gives the double back. -/

namespace ExportWatch.Decimal

theorem powerAbove_eq {base : Nat} (positive : 0 < base) (exponent : Int) :
    (powerAbove base exponent : ℚ) = (base : ℚ) ^ exponent * powerBelow base exponent := by
  have filled : (base : ℚ) ≠ 0 := Nat.cast_ne_zero.mpr (Nat.ne_of_gt positive)
  rcases exponent.eq_nat_or_neg with ⟨size, rfl | rfl⟩
  · simp [powerAbove, powerBelow]
  · simp [powerAbove, powerBelow, filled]

theorem powerBelow_ne_zero {base : Nat} (positive : 0 < base) (exponent : Int) :
    (powerBelow base exponent : ℚ) ≠ 0 :=
  Nat.cast_ne_zero.mpr (Nat.ne_of_gt (powerBelow_pos positive exponent))

/-! Rounding to whole numbers. -/

/-- No whole number is nearer to the value, and of two that are equally near it is the even one. -/
def NearestWhole (value : ℚ) (whole : Nat) : Prop :=
  if whole % 2 = 0 then 2 * (whole : ℚ) - 1 ≤ 2 * value ∧ 2 * value ≤ 2 * whole + 1
  else 2 * (whole : ℚ) - 1 < 2 * value ∧ 2 * value < 2 * whole + 1

theorem roundQuotient_eq {numerator denominator whole : Nat} (positive : 0 < denominator)
    (lower : 2 * (whole * denominator) ≤ 2 * numerator + denominator)
    (upper : 2 * numerator ≤ 2 * (whole * denominator) + denominator)
    (odd : whole % 2 = 1 → 2 * (whole * denominator) < 2 * numerator + denominator ∧
      2 * numerator < 2 * (whole * denominator) + denominator) :
    Tie.toEven.roundQuotient numerator denominator = whole := by
  have division := Nat.div_add_mod numerator denominator
  have small := Nat.mod_lt numerator positive
  rw [Nat.mul_comm] at division
  unfold Tie.roundQuotient
  simp only []
  generalize numerator / denominator = quotient at division ⊢
  generalize numerator % denominator = rest at division small ⊢
  have least : quotient < whole + 1 := by
    refine Nat.lt_of_mul_lt_mul_right (a := denominator) ?_
    rw [Nat.add_mul, Nat.one_mul]
    omega
  have greatest : whole < quotient + 2 := by
    refine Nat.lt_of_mul_lt_mul_right (a := denominator) ?_
    rw [Nat.add_mul]
    omega
  obtain rfl | rfl : whole = quotient ∨ whole = quotient + 1 := by omega
  · split
    · rfl
    · split
      · omega
      · omega
  · rw [Nat.add_mul, Nat.one_mul] at lower upper odd
    split
    · omega
    · split
      · rfl
      · omega

theorem roundQuotient_of_nearest {numerator denominator whole : Nat} (positive : 0 < denominator)
    (nearest : NearestWhole ((numerator : ℚ) / denominator) whole) :
    Tie.toEven.roundQuotient numerator denominator = whole := by
  have size : (0 : ℚ) < denominator := Nat.cast_pos.mpr positive
  have quotient : (numerator : ℚ) = numerator / denominator * denominator :=
    (div_mul_cancel₀ _ size.ne').symm
  unfold NearestWhole at nearest
  generalize (numerator : ℚ) / denominator = value at nearest quotient
  split at nearest
  · next even =>
      have lower := mul_le_mul_of_nonneg_right nearest.1 size.le
      have upper := mul_le_mul_of_nonneg_right nearest.2 size.le
      refine roundQuotient_eq positive ?_ ?_ fun odd => by omega
      · rw [← Nat.cast_le (α := ℚ)]
        push_cast
        rw [quotient]
        linarith
      · rw [← Nat.cast_le (α := ℚ)]
        push_cast
        rw [quotient]
        linarith
  · have lower := mul_lt_mul_of_pos_right nearest.1 size
    have upper := mul_lt_mul_of_pos_right nearest.2 size
    have strictLower : 2 * (whole * denominator) < 2 * numerator + denominator := by
      rw [← Nat.cast_lt (α := ℚ)]
      push_cast
      rw [quotient]
      linarith
    have strictUpper : 2 * numerator < 2 * (whole * denominator) + denominator := by
      rw [← Nat.cast_lt (α := ℚ)]
      push_cast
      rw [quotient]
      linarith
    exact roundQuotient_eq positive strictLower.le strictUpper.le fun _ =>
      ⟨strictLower, strictUpper⟩

/-! The unit in the last place. -/

theorem scaled_quotient (numerator denominator : Nat) (unit : Int) :
    ((numerator * powerBelow 2 unit : Nat) : ℚ) / (denominator * powerAbove 2 unit : Nat) =
      numerator / denominator / 2 ^ unit := by
  have below : (powerBelow 2 unit : ℚ) ≠ 0 := powerBelow_ne_zero (by decide) unit
  push_cast
  rw [powerAbove_eq (by decide)]
  push_cast
  rw [← mul_assoc, mul_div_mul_right _ _ below, div_div]

variable {numerator denominator : Nat}

theorem quotient_pos (filled : 0 < numerator) (positive : 0 < denominator) :
    0 < (numerator : ℚ) / denominator :=
  div_pos (Nat.cast_pos.mpr filled) (Nat.cast_pos.mpr positive)

/-- The sizes of both parts of a fraction leave two possible sizes of the fraction. -/
theorem log_quotient (filled : 0 < numerator) (positive : 0 < denominator) :
    (Nat.log2 numerator : Int) - Nat.log2 denominator - 1 ≤
        Int.log 2 ((numerator : ℚ) / denominator) ∧
      Int.log 2 ((numerator : ℚ) / denominator) <
        (Nat.log2 numerator : Int) - Nat.log2 denominator + 1 := by
  have above : (0 : ℚ) < denominator := Nat.cast_pos.mpr positive
  have bounds {value : Nat} (some : 0 < value) :
      (2 : ℚ) ^ (Nat.log2 value : Int) ≤ value ∧
        (value : ℚ) < 2 ^ ((Nat.log2 value : Int) + 1) := by
    constructor
    · exact_mod_cast Nat.log2_self_le (Nat.ne_of_gt some)
    · exact_mod_cast Nat.lt_log2_self
  rcases bounds filled with ⟨numeratorLower, numeratorUpper⟩
  rcases bounds positive with ⟨denominatorLower, denominatorUpper⟩
  have two : (2 : ℚ) ≠ 0 := by decide
  constructor
  · rw [← Int.zpow_le_iff_le_log (by decide) (quotient_pos filled positive), Nat.cast_ofNat,
      le_div_iff₀ above]
    calc
      (2 : ℚ) ^ ((Nat.log2 numerator : Int) - Nat.log2 denominator - 1) * denominator
          ≤ 2 ^ ((Nat.log2 numerator : Int) - Nat.log2 denominator - 1) *
              2 ^ ((Nat.log2 denominator : Int) + 1) :=
            mul_le_mul_of_nonneg_left denominatorUpper.le (by positivity)
      _ = 2 ^ (Nat.log2 numerator : Int) := by
            rw [← zpow_add₀ two]
            congr 1
            omega
      _ ≤ numerator := numeratorLower
  · rw [← Int.lt_zpow_iff_log_lt (by decide) (quotient_pos filled positive), Nat.cast_ofNat,
      div_lt_iff₀ above]
    calc
      (numerator : ℚ) < 2 ^ ((Nat.log2 numerator : Int) + 1) := numeratorUpper
      _ = 2 ^ ((Nat.log2 numerator : Int) - Nat.log2 denominator + 1) *
            2 ^ (Nat.log2 denominator : Int) := by
            rw [← zpow_add₀ two]
            congr 1
            omega
      _ ≤ 2 ^ ((Nat.log2 numerator : Int) - Nat.log2 denominator + 1) * denominator :=
            mul_le_mul_of_nonneg_left denominatorLower (by positivity)

/-- The significand has 53 binary digits, unless the unit is the smallest there is. -/
theorem unitExponent_eq (filled : 0 < numerator) (positive : 0 < denominator) :
    unitExponent numerator denominator =
      max leastExponent (Int.log 2 ((numerator : ℚ) / denominator) - 52) := by
  have bounds := log_quotient filled positive
  -- the guess is right or one too small, and the quotient tells which
  unfold unitExponent
  simp only []
  generalize guessed : (Nat.log2 numerator : Int) - Nat.log2 denominator - 53 = guess at bounds ⊢
  have large : Nat.pow 2 53 ≤
        numerator * powerBelow 2 guess / (denominator * powerAbove 2 guess) ↔
      53 + guess ≤ Int.log 2 ((numerator : ℚ) / denominator) := by
    have scaled := scaled_quotient numerator denominator guess
    have step : 0 < denominator * powerAbove 2 guess :=
      Nat.mul_pos positive (powerAbove_pos (by decide) guess)
    rw [Nat.le_div_iff_mul_le step, ← Nat.cast_le (α := ℚ), Nat.cast_mul,
      ← le_div_iff₀ (Nat.cast_pos.mpr step), scaled,
      ← Int.zpow_le_iff_le_log (by decide) (quotient_pos filled positive), Nat.cast_ofNat,
      zpow_add₀ (by decide), ← le_div_iff₀ (by positivity)]
    norm_num
  congr 1
  split
  · next reached =>
      rw [large] at reached
      omega
  · next missed =>
      rw [large] at missed
      omega

/-! The interval around a double. -/

/-- The ends belong to an interval that is closed. -/
def Interval.Holds (interval : Interval) (value : ℚ) : Prop :=
  if interval.closed then
    interval.low * (2 : ℚ) ^ interval.unit ≤ value ∧ value ≤ interval.high * 2 ^ interval.unit
  else interval.low * (2 : ℚ) ^ interval.unit < value ∧ value < interval.high * 2 ^ interval.unit

/-- The significand and the exponent that a double has. -/
structure Canonical (significand : Nat) (exponent : Int) : Prop where
  small : significand < 2 ^ 53
  least : leastExponent ≤ exponent
  greatest : exponent ≤ 971
  normal : 2 ^ 52 ≤ significand ∨ exponent = leastExponent

section Around

variable {significand : Nat} {exponent : Int} {value : ℚ}

/-! What the interval says of the value in units of the last place. -/

theorem zpow_quarter (exponent : Int) : (2 : ℚ) ^ (exponent - 2) = 2 ^ exponent / 4 := by
  rw [zpow_sub₀ (by decide)]
  norm_num

theorem quarters_le_iff (quarters : ℚ) :
    quarters * 2 ^ (exponent - 2) ≤ value ↔ quarters ≤ 4 * (value / 2 ^ exponent) := by
  have power : (0 : ℚ) < 2 ^ exponent := by positivity
  rw [zpow_quarter, ← mul_div_assoc 4, le_div_iff₀ power]
  constructor <;> intro le <;> linarith

theorem le_quarters_iff (quarters : ℚ) :
    value ≤ quarters * 2 ^ (exponent - 2) ↔ 4 * (value / 2 ^ exponent) ≤ quarters := by
  have power : (0 : ℚ) < 2 ^ exponent := by positivity
  rw [zpow_quarter, ← mul_div_assoc 4, div_le_iff₀ power]
  constructor <;> intro le <;> linarith

theorem holds_around_iff :
    (Interval.around significand exponent).Holds value ↔
      if significand % 2 = 0 then
        (Interval.around significand exponent).low ≤ 4 * (value / 2 ^ exponent) ∧
          4 * (value / 2 ^ exponent) ≤ 4 * significand + 2
      else
        (Interval.around significand exponent).low < 4 * (value / 2 ^ exponent) ∧
          4 * (value / 2 ^ exponent) < 4 * significand + 2 := by
  simp only [Interval.Holds, Interval.around, decide_eq_true_eq, quarters_le_iff, le_quarters_iff,
    ← not_le, Nat.cast_add, Nat.cast_mul, Nat.cast_ofNat]

theorem le_low_around (significand : Nat) (exponent : Int) :
    4 * (significand : ℚ) - 2 ≤ (Interval.around significand exponent).low := by
  have low : 4 * significand ≤ (Interval.around significand exponent).low + 2 := by
    simp only [Interval.around]
    split <;> omega
  have cast : 4 * (significand : ℚ) ≤ (Interval.around significand exponent).low + 2 := by
    exact_mod_cast low
  linarith

theorem nearest_of_holds (held : (Interval.around significand exponent).Holds value) :
    NearestWhole (value / 2 ^ exponent) significand := by
  have low := le_low_around significand exponent
  rw [holds_around_iff] at held
  unfold NearestWhole
  split at held
  · next even =>
      rw [if_pos even]
      constructor <;> linarith [held.1, held.2]
  · next odd =>
      rw [if_neg odd]
      constructor <;> linarith [held.1, held.2]

/-- Below a power of two the values are closer together, and one that rounds up to the power has a
significand of one digit more. -/
theorem nearest_of_holds_power (held : (Interval.around (2 ^ 52) exponent).Holds value)
    (above : leastExponent < exponent) (below : value / 2 ^ exponent < 2 ^ 52) :
    NearestWhole (value / 2 ^ (exponent - 1)) (2 ^ 53) := by
  have low : (Interval.around (2 ^ 52) exponent).low = 4 * 2 ^ 52 - 1 := by
    simp [Interval.around, above]
  rw [holds_around_iff, if_pos (by decide), low] at held
  have double : value / 2 ^ (exponent - 1) = 2 * (value / 2 ^ exponent) := by
    rw [zpow_sub₀ (by decide)]
    field_simp
  rw [NearestWhole, if_pos (by decide), double]
  norm_num at held below ⊢
  constructor <;> linarith [held.1]

theorem share_near (held : (Interval.around significand exponent).Holds value) :
    4 * (significand : ℚ) - 2 ≤ 4 * (value / 2 ^ exponent) ∧
      4 * (value / 2 ^ exponent) ≤ 4 * significand + 2 := by
  have low := le_low_around significand exponent
  rw [holds_around_iff] at held
  split at held
  · exact ⟨low.trans held.1, held.2⟩
  · exact ⟨low.trans held.1.le, held.2.le⟩

theorem pos_of_holds (filled : significand ≠ 0)
    (held : (Interval.around significand exponent).Holds value) : 0 < value := by
  have one : (1 : ℚ) ≤ significand := by
    exact_mod_cast Nat.pos_of_ne_zero filled
  have power : (0 : ℚ) < 2 ^ exponent := by positivity
  have share : 0 < value / 2 ^ exponent := by linarith [(share_near held).1]
  rwa [div_pos_iff_of_pos_right power] at share

theorem log_lt_iff (positive : 0 < value) (size : Nat) :
    Int.log 2 value < size + exponent ↔ value / 2 ^ exponent < 2 ^ size := by
  have power : (0 : ℚ) < 2 ^ exponent := by positivity
  rw [← Int.lt_zpow_iff_log_lt (by decide) positive, Nat.cast_ofNat, zpow_add₀ (by decide),
    zpow_natCast, div_lt_iff₀ power]

theorem log_lt_of_holds (canonical : Canonical significand exponent) (filled : significand ≠ 0)
    (held : (Interval.around significand exponent).Holds value) :
    Int.log 2 value < 53 + exponent := by
  have whole : (significand : ℚ) + 1 ≤ 2 ^ 53 := by exact_mod_cast canonical.small
  refine (log_lt_iff (pos_of_holds filled held) 53).mpr ?_
  linarith [(share_near held).2]

/-- Only a power of two has values with a smaller unit in its interval, and they are just below
it. -/
theorem power_of_small_share (canonical : Canonical significand exponent)
    (held : (Interval.around significand exponent).Holds value) (above : leastExponent < exponent)
    (small : value / 2 ^ exponent < 2 ^ 52) :
    significand = 2 ^ 52 ∧ 2 ^ 51 ≤ value / 2 ^ exponent := by
  have lower := (share_near held).1
  have power : significand = 2 ^ 52 := by
    refine le_antisymm ?_ (canonical.normal.resolve_right above.ne')
    rw [← Nat.lt_succ_iff, ← Nat.cast_lt (α := ℚ)]
    push_cast
    linarith
  refine ⟨power, ?_⟩
  rw [power] at lower
  push_cast at lower
  linarith

theorem nearestBits_of_nearest (filled : numerator ≠ 0) (positive : 0 < denominator) {unit : Int}
    {whole : Nat} (unit_eq : unitExponent numerator denominator = unit)
    (nearest : NearestWhole ((numerator : ℚ) / denominator / 2 ^ unit) whole) :
    nearestBits numerator denominator =
      min (2047 * Nat.pow 2 52) ((unit + 1074).toNat * Nat.pow 2 52 + whole) := by
  have rounded : Tie.toEven.roundQuotient (numerator * powerBelow 2 unit)
      (denominator * powerAbove 2 unit) = whole :=
    roundQuotient_of_nearest (Nat.mul_pos positive (powerAbove_pos (by decide) unit))
      (by rwa [scaled_quotient])
  rw [nearestBits, if_neg filled, unit_eq]
  simp only [rounded]

/-- What lies in the interval around a double is read as the bits of the double. -/
theorem nearestBits_of_holds (canonical : Canonical significand exponent)
    (filled : significand ≠ 0) (positive : 0 < denominator)
    (held : (Interval.around significand exponent).Holds ((numerator : ℚ) / denominator)) :
    nearestBits numerator denominator =
      (exponent + 1074).toNat * Nat.pow 2 52 + significand := by
  have quotient := pos_of_holds filled held
  have some : numerator ≠ 0 := by
    rintro rfl
    simp at quotient
  have unit := unitExponent_eq (Nat.pos_of_ne_zero some) positive
  have size := log_lt_of_holds canonical filled held
  have limit : leastExponent = -1074 := rfl
  have least := canonical.least
  have greatest := canonical.greatest
  have small := canonical.small
  by_cases carries : leastExponent < exponent ∧
      Int.log 2 ((numerator : ℚ) / denominator) < 52 + exponent
  · -- the unit is half as large, and the significand of 54 digits carries into the exponent
    have below := (log_lt_iff quotient 52).mp carries.2
    rcases power_of_small_share canonical held carries.1 below with ⟨rfl, reached⟩
    have large := (log_lt_iff quotient 51).not.mpr (not_lt.mpr reached)
    have same : unitExponent numerator denominator = exponent - 1 := by omega
    rw [nearestBits_of_nearest some positive same (nearest_of_holds_power held carries.1 below)]
    simp only [Nat.pow_eq]
    omega
  · have same : unitExponent numerator denominator = exponent := by omega
    rw [nearestBits_of_nearest some positive same (nearest_of_holds held)]
    simp only [Nat.pow_eq]
    omega

/-! Decimals of any size. What is taken to be too large or too small for a double is not in the
interval around one. -/

theorem bounds_of_holds (canonical : Canonical significand exponent) (filled : significand ≠ 0)
    (held : (Interval.around significand exponent).Holds value) :
    (2 : ℚ) ^ (-1075 : Int) ≤ value ∧ value < 2 ^ (1024 : Int) := by
  rcases canonical with ⟨small, least, greatest, -⟩
  rcases share_near held with ⟨lower, upper⟩
  have two : (2 : ℚ) ≠ 0 := by decide
  have power : (0 : ℚ) < 2 ^ exponent := by positivity
  have one : (1 : ℚ) ≤ significand := by exact_mod_cast Nat.pos_of_ne_zero filled
  have whole : (significand : ℚ) + 1 ≤ 2 ^ 53 := by exact_mod_cast small
  have shared : value = value / 2 ^ exponent * 2 ^ exponent := (div_mul_cancel₀ _ power.ne').symm
  constructor
  · calc
      (2 : ℚ) ^ (-1075 : Int) = 2 ^ (-1 : Int) * 2 ^ leastExponent := by
          rw [← zpow_add₀ two]
          rfl
      _ = 1 / 2 * 2 ^ leastExponent := by rw [zpow_neg_one, one_div]
      _ ≤ 1 / 2 * 2 ^ exponent := by gcongr; norm_num
      _ ≤ value / 2 ^ exponent * 2 ^ exponent :=
          mul_le_mul_of_nonneg_right (by linarith) power.le
      _ = value := shared.symm
  · calc
      value = value / 2 ^ exponent * 2 ^ exponent := shared
      _ < 2 ^ 53 * 2 ^ exponent := mul_lt_mul_of_pos_right (by linarith) power
      _ ≤ 2 ^ 53 * 2 ^ (971 : Int) := by gcongr; norm_num
      _ = 2 ^ (1024 : Int) := (zpow_add₀ two (53 : Nat) 971).symm

theorem tiny_lt : (10 : ℚ) ^ (-400 : Int) < 2 ^ (-1075 : Int) := by
  have larger : (2 : ℚ) ^ 1075 < 10 ^ 400 := by
    calc
      (2 : ℚ) ^ 1075 < 2 ^ (3 * 400) := pow_lt_pow_right₀ (by norm_num) (by norm_num)
      _ = (2 ^ 3) ^ 400 := pow_mul 2 3 400
      _ ≤ 10 ^ 400 := pow_le_pow_left₀ (by norm_num) (by norm_num) 400
  rw [zpow_neg, zpow_neg]
  exact inv_strictAnti₀ (by positivity) larger

theorem lt_huge : (2 : ℚ) ^ (1024 : Int) < 10 ^ (400 : Int) := by
  calc
    (2 : ℚ) ^ (1024 : Int) < 2 ^ (1075 : Int) := zpow_lt_zpow_right₀ (by norm_num) (by norm_num)
    _ = (2 ^ (-1075 : Int))⁻¹ := by rw [← zpow_neg, neg_neg]
    _ < (10 ^ (-400 : Int))⁻¹ := inv_strictAnti₀ (by positivity) tiny_lt
    _ = 10 ^ (400 : Int) := by rw [← zpow_neg, neg_neg]

theorem huge_le {digits : Nat} {power : Int} (filled : digits ≠ 0) (huge : 400 < power) :
    (10 : ℚ) ^ (400 : Int) ≤ digits * 10 ^ power := by
  have one : (1 : ℚ) ≤ digits := by exact_mod_cast Nat.pos_of_ne_zero filled
  calc
    (10 : ℚ) ^ (400 : Int) ≤ 10 ^ power := zpow_le_zpow_right₀ (by norm_num) huge.le
    _ ≤ digits * 10 ^ power := le_mul_of_one_le_left (by positivity) one

theorem le_tiny {digits : Nat} {power : Int}
    (tiny : power < -400 - ((Nat.log2 digits : Int) + 1)) :
    digits * (10 : ℚ) ^ power ≤ 10 ^ (-400 : Int) := by
  have bounded : (digits : ℚ) ≤ 10 ^ ((Nat.log2 digits : Int) + 1) :=
    calc
      (digits : ℚ) ≤ 2 ^ (Nat.log2 digits + 1) := by exact_mod_cast Nat.lt_log2_self.le
      _ ≤ 10 ^ (Nat.log2 digits + 1) := by gcongr; norm_num
      _ = 10 ^ ((Nat.log2 digits : Int) + 1) := by exact_mod_cast rfl
  calc
    digits * (10 : ℚ) ^ power
        ≤ 10 ^ ((Nat.log2 digits : Int) + 1) * 10 ^ power :=
          mul_le_mul_of_nonneg_right bounded (by positivity)
    _ = 10 ^ ((Nat.log2 digits : Int) + 1 + power) := (zpow_add₀ (by decide) _ _).symm
    _ ≤ 10 ^ (-400 : Int) := zpow_le_zpow_right₀ (by norm_num) (by omega)

theorem decimal_quotient (digits : Nat) (power : Int) :
    ((digits * powerAbove 10 power : Nat) : ℚ) / (powerBelow 10 power : Nat) =
      digits * 10 ^ power := by
  have below : (powerBelow 10 power : ℚ) ≠ 0 := powerBelow_ne_zero (by decide) power
  push_cast
  rw [powerAbove_eq (by decide), ← mul_assoc, mul_div_cancel_right₀ _ below, Nat.cast_ofNat]

/-- The bits of a double. -/
def doubleBits (negative : Bool) (significand : Nat) (exponent : Int) : Nat :=
  (if negative then Nat.pow 2 63 else 0) + ((exponent + 1074).toNat * Nat.pow 2 52 + significand)

/-- A decimal in the interval around a double is read as the double. -/
theorem decimalFloat_of_holds (negative : Bool) {digits : Nat} {power : Int}
    (canonical : Canonical significand exponent) (filled : significand ≠ 0)
    (held : (Interval.around significand exponent).Holds (digits * 10 ^ power)) :
    decimalFloat negative digits power =
      Float.ofBits (UInt64.ofNat (doubleBits negative significand exponent)) := by
  rcases bounds_of_holds canonical filled held with ⟨lower, upper⟩
  have some : digits ≠ 0 := by
    rintro rfl
    simpa using pos_of_holds filled held
  have notHuge : ¬ 400 < power := fun huge =>
    absurd ((huge_le some huge).trans_lt upper) lt_huge.le.not_gt
  have notTiny : ¬ power < -400 - ((Nat.log2 digits : Int) + 1) := fun tiny =>
    absurd (lower.trans (le_tiny tiny)) tiny_lt.not_ge
  rw [decimalFloat, if_neg some, if_neg notHuge, if_neg notTiny, nearestFloat, doubleBits,
    nearestBits_of_holds canonical filled (powerBelow_pos (by decide) power)
      (by rwa [decimal_quotient])]

end Around

/-! Every finite double is a significand with an exponent. -/

theorem canonical_of_ofFloat {value : Float} {negative : Bool} {significand : Nat} {exponent : Int}
    (finite : Magnitude.ofFloat value = .finite negative significand exponent) :
    Canonical significand exponent ∧
      value.toBits.toNat = doubleBits negative significand exponent := by
  have bits := value.toBits.toNat_lt
  unfold Magnitude.ofFloat at finite
  simp only [Nat.pow_eq] at finite
  unfold doubleBits
  simp only [Nat.pow_eq]
  generalize value.toBits.toNat = size at bits finite ⊢
  split at finite
  · split at finite <;> cases finite
  · next notLast =>
      have limit : leastExponent = -1074 := rfl
      split at finite
      · next first =>
          cases finite
          constructor
          · constructor <;> omega
          · simp only [decide_eq_true_eq]
            split <;> omega
      · next notFirst =>
          cases finite
          constructor
          · constructor <;> omega
          · simp only [decide_eq_true_eq]
            split <;> omega

end ExportWatch.Decimal

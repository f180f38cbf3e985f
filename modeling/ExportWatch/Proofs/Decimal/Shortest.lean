import ExportWatch.Decimal.Shortest

/-! The digits of the shortest decimal. A point of the grid in the interval around a positive double
is not zero. Where the search gives up it is not known that the point below the double is in the
interval, but only a double that is large has its last digit above the point, and below such a
double there is another point than zero. -/

namespace ExportWatch.Decimal

theorem powerAbove_pos {base : Nat} (positive : 0 < base) (exponent : Int) :
    0 < powerAbove base exponent :=
  Nat.pow_pos positive

theorem powerBelow_pos {base : Nat} (positive : 0 < base) (exponent : Int) :
    0 < powerBelow base exponent :=
  Nat.pow_pos positive

theorem Tie.le_roundQuotient (tie : Tie) (numerator denominator : Nat) :
    numerator / denominator ≤ tie.roundQuotient numerator denominator := by
  unfold roundQuotient
  simp only []
  split
  · exact Nat.le_refl _
  · split
    · exact Nat.le_succ _
    · cases tie with
      | toEven => exact Nat.le_add_right _ _
      | awayFromZero => exact Nat.le_succ _

namespace Grid

variable {grid : Grid}

theorem holds_zero (positive : 0 < grid.interval.low) : grid.holds 0 = false := by
  have low : 0 < grid.scaled grid.interval.low :=
    Nat.mul_pos (Nat.mul_pos positive (powerAbove_pos (by decide) _)) (powerBelow_pos (by decide) _)
  unfold holds
  simp only [Nat.zero_mul]
  split
  · rw [Bool.and_eq_false_iff]
    left
    simpa using Nat.ne_of_gt low
  · rw [Bool.and_eq_false_iff]
    left
    simp

theorem nearest_ne_zero (positive : 0 < grid.interval.low) {tie : Tie} {point : Nat}
    (found : grid.nearest tie = some point) : point ≠ 0 := by
  have filled (held : grid.holds grid.below = true) : grid.below ≠ 0 := by
    intro zero
    rw [zero, holds_zero positive] at held
    cases held
  unfold nearest at found
  simp only [] at found
  split at found
  · cases found
  · next held _ =>
      cases found
      exact filled held
  · cases found
    exact Nat.succ_ne_zero _
  · next held _ =>
      cases found
      have least := tie.le_roundQuotient (grid.scaled grid.interval.middle) grid.step
      have below : 0 < grid.scaled grid.interval.middle / grid.step :=
        Nat.pos_of_ne_zero (filled held)
      exact Nat.ne_of_gt (Nat.lt_of_lt_of_le below least)

end Grid

theorem shortestFrom_of_no_digits {tie : Tie} {interval : Interval}
    (positive : 0 < interval.low) {leading : Int} {more count : Nat}
    (zero : (shortestFrom tie interval leading more count).digits = 0) :
    shortestFrom tie interval leading more count = ⟨0, leading - (count + more : Nat)⟩ ∧
      (Grid.mk interval (leading - (count + more : Nat))).below = 0 := by
  induction more generalizing count with
  | zero =>
      rw [shortestFrom] at zero ⊢
      exact ⟨congrArg (Scaled.mk · _) zero, zero⟩
  | succ more induction =>
      have same : count + (more + 1) = count + 1 + more := by omega
      rw [shortestFrom] at zero ⊢
      cases found : (Grid.mk interval (leading - count)).nearest tie with
      | some digits =>
          simp only [found] at zero
          exact absurd zero (Grid.nearest_ne_zero positive found)
      | none =>
          simp only [found] at zero ⊢
          rw [same]
          exact induction zero

theorem withoutTrailingZeros_ne_zero {fuel digits : Nat} {exponent : Int} (filled : digits ≠ 0) :
    (withoutTrailingZeros fuel digits exponent).digits ≠ 0 := by
  induction fuel generalizing digits exponent with
  | zero => exact filled
  | succ fuel induction =>
      rw [withoutTrailingZeros]
      split
      · exact induction (by omega)
      · exact filled

/-- The guess is put right by at most one. -/
theorem leadingExponent_le (significand : Nat) (exponent : Int) :
    leadingExponent significand exponent ≤
      Int.fdiv (((Nat.log2 significand : Int) + exponent) * 30103) 100000 + 1 := by
  unfold leadingExponent
  simp only []
  split
  · omega
  · split
    · exact Int.le_refl _
    · omega

/-- A double of at least `2 ^ 50` reaches every place of the grid up to the sixteenth digit. -/
theorem below_ne_zero {significand : Nat} {exponent place : Int} (filled : significand ≠ 0)
    (large : 50 ≤ (Nat.log2 significand : Int) + exponent) (positive : 0 < place)
    (bounded : place ≤ 15) :
    (Grid.mk (Interval.around significand exponent) place).below ≠ 0 := by
  have unit : powerBelow 10 place = 1 := by
    rw [powerBelow, Int.toNat_of_nonpos (by omega), Nat.pow_eq, Nat.pow_zero]
  have steps : powerAbove 10 place ≤ 2 ^ 50 :=
    Nat.le_trans (Nat.pow_le_pow_right (by decide) (by omega : place.toNat ≤ 15)) (by decide)
  rw [Grid.below, Grid.scaled, Grid.step, unit, Nat.mul_one]
  refine Nat.ne_of_gt (Nat.div_pos ?_ (Nat.mul_pos (powerBelow_pos (by decide) _)
    (powerAbove_pos (by decide) _)))
  have four : 4 * 2 ^ Nat.log2 significand = 2 ^ (Nat.log2 significand + 2) := by
    rw [Nat.pow_add, Nat.mul_comm]
  have sizes : (-(exponent - 2)).toNat + 50 ≤ Nat.log2 significand + 2 + (exponent - 2).toNat := by
    omega
  calc
    powerBelow 2 (exponent - 2) * powerAbove 10 place
        ≤ 2 ^ (-(exponent - 2)).toNat * 2 ^ 50 := Nat.mul_le_mul_left _ steps
    _ = 2 ^ ((-(exponent - 2)).toNat + 50) := (Nat.pow_add _ _ _).symm
    _ ≤ 2 ^ (Nat.log2 significand + 2 + (exponent - 2).toNat) :=
        Nat.pow_le_pow_right (by decide) sizes
    _ = 4 * 2 ^ Nat.log2 significand * 2 ^ (exponent - 2).toNat := by rw [four, Nat.pow_add]
    _ ≤ 4 * significand * powerAbove 2 (exponent - 2) :=
        Nat.mul_le_mul_right _ (Nat.mul_le_mul_left _ (Nat.log2_self_le filled))

/-- When all digits are zero, none of them stands before the last place above the point, unless that
place is beyond the sixteenth. -/
theorem exponent_of_no_digits {tie : Tie} {significand : Nat} {exponent : Int}
    (zero : (shortest tie significand exponent).digits = 0) :
    (shortest tie significand exponent).exponent ≤ 0 ∨
      15 < (shortest tie significand exponent).leading := by
  by_cases filled : significand = 0
  · have none : (shortest tie significand exponent).exponent = 0 := by
      rw [shortest, if_pos filled]
    exact .inl (Int.le_of_eq none)
  · have low : 0 < (Interval.around significand exponent).low := by
      simp only [Interval.around]
      split <;> omega
    rw [shortest, if_neg filled] at zero ⊢
    simp only [] at zero ⊢
    generalize search : shortestFrom tie (Interval.around significand exponent)
      (leadingExponent significand exponent) 17 0 = found at zero ⊢
    have empty : found.digits = 0 :=
      Decidable.byContradiction fun some => withoutTrailingZeros_ne_zero some zero
    rw [← search] at empty
    rcases shortestFrom_of_no_digits low empty with ⟨last, below⟩
    rw [last] at search
    subst search
    have one : Text.digitCount 0 = 1 := by decide
    simp only [one, Nat.sub_self, withoutTrailingZeros, Scaled.leading]
    have guess := leadingExponent_le significand exponent
    rw [Int.fdiv_eq_ediv_of_nonneg _ (by decide)] at guess
    by_cases bounded : leadingExponent significand exponent - 17 ≤ 0
    · exact .inl bounded
    · right
      rw [← Int.not_le]
      intro close
      exact below_ne_zero filled (by omega) (Int.not_le.mp bounded) (by omega) below

end ExportWatch.Decimal

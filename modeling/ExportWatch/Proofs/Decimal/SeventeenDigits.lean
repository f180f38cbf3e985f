import ExportWatch.Proofs.Decimal.Nearest

/-! The shortest decimal of a double lies in the interval around the double. The grid of seventeen
digits is fine enough to have a point in every interval, so the search never gives up. -/

namespace ExportWatch.Decimal

theorem Tie.roundQuotient_eq_or (tie : Tie) (numerator denominator : Nat) :
    tie.roundQuotient numerator denominator = numerator / denominator ∨
      tie.roundQuotient numerator denominator = numerator / denominator + 1 := by
  unfold roundQuotient
  simp only []
  split
  · exact .inl rfl
  · split
    · exact .inr rfl
    · cases tie with
      | toEven =>
          rcases Nat.mod_two_eq_zero_or_one (numerator / denominator) with even | odd
          · exact .inl (by rw [even, Nat.add_zero])
          · exact .inr (by rw [odd])
      | awayFromZero => exact .inr rfl

/-! What the comparisons between natural numbers say of the points of a grid. -/

namespace Grid

variable {grid : Grid} {tie : Tie} {point : Nat}

/-- What both sides of a comparison are multiplied by. -/
def scale (grid : Grid) : ℚ :=
  powerBelow 2 grid.interval.unit * powerBelow 10 grid.place

theorem scale_pos (grid : Grid) : 0 < grid.scale :=
  mul_pos (Nat.cast_pos.mpr (powerBelow_pos (by decide) _))
    (Nat.cast_pos.mpr (powerBelow_pos (by decide) _))

theorem step_eq (grid : Grid) : (grid.step : ℚ) = 10 ^ grid.place * grid.scale := by
  rw [step, scale, Nat.cast_mul, powerAbove_eq (by decide), Nat.cast_ofNat]
  ring

theorem scaled_eq (grid : Grid) (quarters : Nat) :
    (grid.scaled quarters : ℚ) = quarters * 2 ^ grid.interval.unit * grid.scale := by
  rw [scaled, scale, Nat.cast_mul, Nat.cast_mul, powerAbove_eq (by decide), Nat.cast_ofNat]
  ring

theorem scaled_le_iff (grid : Grid) (quarters point : Nat) :
    grid.scaled quarters ≤ point * grid.step ↔
      quarters * (2 : ℚ) ^ grid.interval.unit ≤ point * 10 ^ grid.place := by
  rw [← Nat.cast_le (α := ℚ), Nat.cast_mul, scaled_eq, step_eq, ← mul_assoc,
    mul_le_mul_iff_of_pos_right grid.scale_pos]

theorem le_scaled_iff (grid : Grid) (quarters point : Nat) :
    point * grid.step ≤ grid.scaled quarters ↔
      point * (10 : ℚ) ^ grid.place ≤ quarters * 2 ^ grid.interval.unit := by
  rw [← Nat.cast_le (α := ℚ), Nat.cast_mul, scaled_eq, step_eq, ← mul_assoc,
    mul_le_mul_iff_of_pos_right grid.scale_pos]

theorem holds_iff : grid.holds point = true ↔ grid.interval.Holds (point * 10 ^ grid.place) := by
  unfold holds Interval.Holds
  simp only [← not_le]
  split
  · rw [Bool.and_eq_true, decide_eq_true_iff, decide_eq_true_iff, scaled_le_iff, le_scaled_iff]
  · rw [Bool.and_eq_true, decide_eq_true_iff, decide_eq_true_iff, scaled_le_iff, le_scaled_iff]

theorem holds_of_nearest (found : grid.nearest tie = some point) : grid.holds point = true := by
  unfold nearest at found
  simp only [] at found
  split at found
  · cases found
  · next held _ =>
      cases found
      exact held
  · next _ held =>
      cases found
      exact held
  · next held next =>
      cases found
      rcases tie.roundQuotient_eq_or (grid.scaled grid.interval.middle) grid.step with same | same
      · rw [same]
        exact held
      · rw [same]
        exact next

theorem nearest_ne_none
    (held : grid.holds grid.below = true ∨ grid.holds (grid.below + 1) = true) :
    grid.nearest tie ≠ none := by
  unfold nearest
  simp only []
  split
  · next below above =>
      rw [below, above] at held
      simp at held
  · exact Option.some_ne_none _
  · exact Option.some_ne_none _
  · exact Option.some_ne_none _

/-- The middle lies between the two points that are tried. -/
theorem below_le (grid : Grid) :
    grid.below * (10 : ℚ) ^ grid.place ≤ grid.interval.middle * 2 ^ grid.interval.unit ∧
      grid.interval.middle * (2 : ℚ) ^ grid.interval.unit <
        (grid.below + 1 : Nat) * 10 ^ grid.place := by
  have positive : 0 < grid.step :=
    Nat.mul_pos (powerBelow_pos (by decide) _) (powerAbove_pos (by decide) _)
  rw [← le_scaled_iff, ← not_le, ← le_scaled_iff, not_le]
  exact ⟨Nat.div_mul_le_self _ _, Nat.lt_mul_of_div_lt (Nat.lt_succ_self _) positive⟩

end Grid

section Around

variable {significand : Nat} {exponent : Int} {value : ℚ} {tie : Tie}

theorem holds_of_lt
    (lower : (Interval.around significand exponent).low < 4 * (value / 2 ^ exponent))
    (upper : 4 * (value / 2 ^ exponent) < 4 * (significand : ℚ) + 2) :
    (Interval.around significand exponent).Holds value := by
  rw [holds_around_iff]
  split
  · exact ⟨lower.le, upper.le⟩
  · exact ⟨lower, upper⟩

theorem low_around_le (significand : Nat) (exponent : Int) :
    ((Interval.around significand exponent).low : ℚ) ≤ 4 * significand := by
  exact_mod_cast Nat.sub_le _ _

theorem low_around_of_ne (filled : 0 < significand) (wide : significand ≠ 2 ^ 52) :
    ((Interval.around significand exponent).low : ℚ) = 4 * significand - 2 := by
  have natural : (Interval.around significand exponent).low + 2 = 4 * significand := by
    simp only [Interval.around, Nat.pow_eq, wide, false_and, if_false]
    omega
  have cast : ((Interval.around significand exponent).low : ℚ) + 2 = 4 * significand := by
    exact_mod_cast natural
  linarith

/-- The two points that are tried, in units of the last place. -/
theorem share_between (significand : Nat) (exponent place : Int) :
    let point := (Grid.mk (Interval.around significand exponent) place).below
    point * (10 : ℚ) ^ place / 2 ^ exponent ≤ significand ∧
      (significand : ℚ) < (point + 1 : Nat) * 10 ^ place / 2 ^ exponent := by
  intro point
  rcases (Grid.mk (Interval.around significand exponent) place).below_le with ⟨below, above⟩
  rw [← not_le] at above
  simp only [Interval.around, le_quarters_iff] at below above
  push_cast at below above
  constructor
  · exact le_of_mul_le_mul_left below (by norm_num)
  · push_cast
    exact lt_of_mul_lt_mul_left (not_le.mp above) (by norm_num)

theorem share_succ (point : Nat) (exponent place : Int) :
    ((point + 1 : Nat) : ℚ) * 10 ^ place / 2 ^ exponent =
      point * 10 ^ place / 2 ^ exponent + 10 ^ place / 2 ^ exponent := by
  push_cast
  ring

/-- A grid that is finer than the distance to the next double has a point in the interval. At a
power of two the interval is narrower below the double, but then the grid is finer than the half
of it that lies above. -/
theorem nearest_of_fine (canonical : Canonical significand exponent) {place : Int}
    (fine : (10 : ℚ) ^ place * 10 ^ 16 ≤ significand * 2 ^ exponent) :
    (Grid.mk (Interval.around significand exponent) place).nearest tie ≠ none := by
  have power : (0 : ℚ) < 2 ^ exponent := by positivity
  have whole : (significand : ℚ) + 1 ≤ 2 ^ 53 := by exact_mod_cast canonical.small
  have step : (10 : ℚ) ^ place / 2 ^ exponent * 10 ^ 16 ≤ significand := by
    rwa [div_mul_eq_mul_div, div_le_iff₀ power]
  have positive : (0 : ℚ) < 10 ^ place / 2 ^ exponent := by positivity
  have between := share_between significand exponent place
  refine Grid.nearest_ne_none ?_
  rw [Grid.holds_iff, Grid.holds_iff]
  generalize (Grid.mk (Interval.around significand exponent) place).below = point at between ⊢
  have next := share_succ point exponent place
  rcases between with ⟨below, above⟩
  by_cases narrow : significand = 2 ^ 52
  · -- the step is less than half a unit, so the point above is near enough
    have low := low_around_le significand exponent
    rw [narrow] at step
    push_cast at step
    exact .inr (holds_of_lt (by linarith) (by linarith))
  · -- the step is less than a unit, so one of the two points is within half a unit
    have filled : 0 < significand := by
      exact_mod_cast (mul_pos positive (by norm_num)).trans_le step
    have low : ((Interval.around significand exponent).low : ℚ) = 4 * significand - 2 :=
      low_around_of_ne filled narrow
    by_cases close : 4 * (significand : ℚ) - 2 < 4 * (point * 10 ^ place / 2 ^ exponent)
    · exact .inl (holds_of_lt (by linarith) (by linarith))
    · exact .inr (holds_of_lt (by linarith) (by linarith))

/-! The leading digit. -/

theorem atLeastPowerOfTen_iff {power : Int} :
    atLeastPowerOfTen significand exponent power = true ↔
      (10 : ℚ) ^ power ≤ significand * 2 ^ exponent := by
  have scale : (0 : ℚ) < powerBelow 10 power * powerBelow 2 exponent :=
    mul_pos (Nat.cast_pos.mpr (powerBelow_pos (by decide) _))
      (Nat.cast_pos.mpr (powerBelow_pos (by decide) _))
  rw [atLeastPowerOfTen, decide_eq_true_iff, ← Nat.cast_le (α := ℚ), Nat.cast_mul, Nat.cast_mul,
    Nat.cast_mul, powerAbove_eq (by decide), powerAbove_eq (by decide), Nat.cast_ofNat,
    Nat.cast_ofNat, ← mul_le_mul_iff_of_pos_right (b := (10 : ℚ) ^ power) scale]
  constructor <;> intro le <;> linarith

/-- Powers of two bases compare as their exponents do when those are measured by powers of the
bases that are close together. -/
theorem pow_le_pow_of_ratio {base other rise reach size otherSize : Nat} (positive : 0 < other)
    (measured : rise ≠ 0) (close : base ^ rise ≤ other ^ reach)
    (sizes : reach * size ≤ rise * otherSize) : base ^ size ≤ other ^ otherSize := by
  rw [← Nat.pow_le_pow_iff_left measured]
  calc
    (base ^ size) ^ rise = (base ^ rise) ^ size := by rw [← Nat.pow_mul, ← Nat.pow_mul, Nat.mul_comm]
    _ ≤ (other ^ reach) ^ size := Nat.pow_le_pow_left close size
    _ = other ^ (reach * size) := (Nat.pow_mul _ _ _).symm
    _ ≤ other ^ (rise * otherSize) := Nat.pow_le_pow_right positive sizes
    _ = (other ^ otherSize) ^ rise := by rw [Nat.mul_comm, Nat.pow_mul]

/-- The guess is at most one too large: `59 / 196` and `28 / 93` lie on both sides of the decimal
logarithm of two, close enough to the factor of the guess for all exponents of doubles. -/
theorem guess_le {binary : Int} (least : -1100 ≤ binary) (greatest : binary ≤ 1100) :
    (10 : ℚ) ^ (Int.fdiv (binary * 30103) 100000 - 1) ≤ 2 ^ binary := by
  rw [Int.fdiv_eq_ediv_of_nonneg _ (by decide)]
  generalize guessed : binary * 30103 / 100000 - 1 = guess
  rcases binary.eq_nat_or_neg with ⟨size, rfl | rfl⟩
  · rcases guess.eq_nat_or_neg with ⟨digits, rfl | rfl⟩
    · have le : 10 ^ digits ≤ 2 ^ size :=
        pow_le_pow_of_ratio (by decide) (by decide) (by norm_num : 10 ^ 59 ≤ 2 ^ 196) (by omega)
      exact_mod_cast le
    · exact (zpow_le_one_of_nonpos₀ (by norm_num) (by omega)).trans
        (one_le_zpow₀ (by norm_num) (by omega))
  · obtain ⟨digits, rfl⟩ : ∃ digits : Nat, guess = -digits := ⟨guess.natAbs, by omega⟩
    have le : 2 ^ size ≤ 10 ^ digits :=
      pow_le_pow_of_ratio (by decide) (by decide) (by norm_num : 2 ^ 93 ≤ 10 ^ 28) (by omega)
    rw [zpow_neg, zpow_neg, zpow_natCast, zpow_natCast]
    exact inv_anti₀ (by positivity) (by exact_mod_cast le)

theorem leadingExponent_spec (canonical : Canonical significand exponent)
    (filled : significand ≠ 0) :
    (10 : ℚ) ^ leadingExponent significand exponent ≤ significand * 2 ^ exponent := by
  rcases canonical with ⟨small, least, greatest, -⟩
  unfold leadingExponent
  simp only []
  split
  · have size : Nat.log2 significand < 53 := (Nat.log2_lt filled).mpr small
    have limit : leastExponent = -1074 := rfl
    calc
      (10 : ℚ) ^ (Int.fdiv (((Nat.log2 significand : Int) + exponent) * 30103) 100000 - 1)
          ≤ 2 ^ ((Nat.log2 significand : Int) + exponent) := guess_le (by omega) (by omega)
      _ = 2 ^ Nat.log2 significand * 2 ^ exponent := by rw [zpow_add₀ (by decide), zpow_natCast]
      _ ≤ significand * 2 ^ exponent := by
          gcongr
          exact_mod_cast Nat.log2_self_le filled
  · next reached =>
      split
      · next next => exact atLeastPowerOfTen_iff.mp next
      · simpa [atLeastPowerOfTen_iff] using reached

/-! The search. -/

theorem holds_of_shortestFrom {interval : Interval} {leading : Int} {more count last : Nat}
    (counted : count ≤ last) (bounded : last < count + more)
    (found : (Grid.mk interval (leading - last)).nearest tie ≠ none) :
    interval.Holds ((shortestFrom tie interval leading more count).digits *
      10 ^ (shortestFrom tie interval leading more count).exponent) := by
  induction more generalizing count with
  | zero => omega
  | succ more induction =>
      rw [shortestFrom]
      cases here : (Grid.mk interval (leading - count)).nearest tie with
      | some digits => exact Grid.holds_iff.mp (Grid.holds_of_nearest here)
      | none =>
          have later : count ≠ last := by
            rintro rfl
            exact found here
          exact induction (by omega) (by omega)

theorem withoutTrailingZeros_value (fuel digits : Nat) (exponent : Int) :
    ((withoutTrailingZeros fuel digits exponent).digits : ℚ) *
        10 ^ (withoutTrailingZeros fuel digits exponent).exponent = digits * 10 ^ exponent := by
  induction fuel generalizing digits exponent with
  | zero => rfl
  | succ fuel induction =>
      rw [withoutTrailingZeros]
      split
      · next zero =>
          have tens : (digits : ℚ) = (digits / 10 : Nat) * 10 := by
            exact_mod_cast (Nat.div_mul_cancel (Nat.dvd_of_mod_eq_zero zero)).symm
          rw [induction, tens, zpow_add_one₀ (by decide)]
          ring
      · rfl

/-- The shortest decimal of a double lies in the interval around it. -/
theorem shortest_holds (canonical : Canonical significand exponent) (filled : significand ≠ 0) :
    (Interval.around significand exponent).Holds
      ((shortest tie significand exponent).digits *
        10 ^ (shortest tie significand exponent).exponent) := by
  have fine : (10 : ℚ) ^ (leadingExponent significand exponent - (16 : Nat)) * 10 ^ 16 ≤
      significand * 2 ^ exponent := by
    have leading := leadingExponent_spec canonical filled
    rwa [zpow_sub₀ (by decide), zpow_natCast, div_mul_cancel₀ _ (by positivity)]
  rw [shortest, if_neg filled]
  simp only []
  rw [withoutTrailingZeros_value]
  exact holds_of_shortestFrom (Nat.zero_le 16) (by decide) (nearest_of_fine canonical fine)

end Around

end ExportWatch.Decimal

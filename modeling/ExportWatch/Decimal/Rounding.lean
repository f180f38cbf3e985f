/-! Rounding a quotient of natural numbers to the nearest whole number. A half
lies between two neighbours that are equally near, and a rule settles it. -/

namespace ExportWatch.Decimal

inductive Tie where
  | toEven
  | awayFromZero
  deriving DecidableEq, Repr

namespace Tie

def roundQuotient (tie : Tie) (numerator denominator : Nat) : Nat :=
  let whole := numerator / denominator
  let rest := numerator % denominator
  if 2 * rest < denominator then whole
  else if denominator < 2 * rest then whole + 1
  else
    match tie with
    | toEven => whole + whole % 2
    | awayFromZero => whole + 1

example : toEven.roundQuotient 5 2 = 2 ∧ toEven.roundQuotient 7 2 = 4 := by decide
example : awayFromZero.roundQuotient 5 2 = 3 ∧ awayFromZero.roundQuotient 9 4 = 2 := by decide

/-- The rounded value is within half a unit of the quotient. -/
theorem roundQuotient_near (tie : Tie) (numerator denominator : Nat) (positive : 0 < denominator) :
    2 * (tie.roundQuotient numerator denominator * denominator) ≤ 2 * numerator + denominator ∧
      2 * numerator ≤
        2 * (tie.roundQuotient numerator denominator * denominator) + denominator := by
  have division := Nat.div_add_mod numerator denominator
  have small := Nat.mod_lt numerator positive
  have parity := Nat.mod_lt (numerator / denominator) (by decide : 2 > 0)
  rw [Nat.mul_comm] at division
  unfold roundQuotient
  simp only []
  split
  · omega
  · split
    · simp only [Nat.add_mul]; omega
    · cases tie
      · simp only [Nat.add_mul]
        rcases Nat.le_one_iff_eq_zero_or_eq_one.mp (Nat.le_of_lt_succ parity) with even | odd
        · simp only [even, Nat.zero_mul]; omega
        · simp only [odd, Nat.one_mul]; omega
      · simp only [Nat.add_mul]; omega

end Tie

end ExportWatch.Decimal

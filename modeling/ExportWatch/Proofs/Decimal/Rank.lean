import ExportWatch.Proofs.Decimal.Finite
import Mathlib

/-! Doubles in a linear order. A double has a rank, and doubles that are numbers are ordered as
their ranks are, so that what holds in every linear order holds of them. The zeros of both signs
have the same rank. -/

namespace ExportWatch.Decimal

open Float.Model UnpackedFloat

/-- Ranks are compared part by part. -/
abbrev Rank : Type :=
  ℤ ×ₗ ℤ ×ₗ ℤ

def signRank : Sign → ℤ
  | .positive => 1
  | .negative => -1

/-- Between the infinities, the sign counts first and then the exponent. What is no number has no
place among the others. -/
def unpackedRank : UnpackedFloat → Rank
  | .notANumber => toLex (0, toLex (0, 0))
  | .infinity sign => toLex (2 * signRank sign, toLex (0, 0))
  | .zero _ => toLex (0, toLex (0, 0))
  | .finite sign significand exponent _ =>
      toLex (signRank sign, toLex (signRank sign * exponent, signRank sign * significand))

def rank (value : Float) : Rank :=
  unpackedRank value.toModel.unpack

theorem compare_toLex (a b c d e f : ℤ) :
    compare (toLex (a, toLex (b, c)) : Rank) (toLex (d, toLex (e, f))) =
      (compare a d).then ((compare b e).then (compare c f)) := by
  rw [Prod.Lex.compare_def]
  change (compare a d).then (compare (toLex (b, c)) (toLex (e, f))) = _
  rw [Prod.Lex.compare_def]
  rfl

theorem compare_cast (first second : ℕ) :
    compare (first : ℤ) (second : ℤ) = compare first second := by
  rw [← cmp_eq_compare, ← cmp_eq_compare]
  exact Nat.strictMono_cast.cmp_map_eq first second

theorem compare_neg (first second : ℤ) :
    compare (-first) (-second) = (compare first second).swap := by
  have reversing : StrictAnti fun value : ℤ => -value := fun _ _ less => Int.neg_lt_neg less
  rw [Int.compare_swap, ← cmp_eq_compare, ← cmp_eq_compare]
  exact reversing.cmp_map_eq first second

theorem unpacked_compare_eq {first second : UnpackedFloat} (firstNumber : first ≠ .notANumber)
    (secondNumber : second ≠ .notANumber) :
    first.compare second = some (compare (unpackedRank first) (unpackedRank second)) := by
  cases first with
  | notANumber => exact absurd rfl firstNumber
  | infinity sign =>
      cases second with
      | notANumber => exact absurd rfl secondNumber
      | infinity other => cases sign <;> cases other <;> rfl
      | zero other => cases sign <;> rfl
      | finite other significand exponent filled =>
          rw [unpackedRank, unpackedRank, compare_toLex]
          cases sign <;> cases other <;> rfl
  | zero sign =>
      cases second with
      | notANumber => exact absurd rfl secondNumber
      | infinity other => cases other <;> rfl
      | zero other => rfl
      | finite other significand exponent filled =>
          rw [unpackedRank, unpackedRank, compare_toLex]
          cases other <;> rfl
  | finite sign significand exponent filled =>
      cases second with
      | notANumber => exact absurd rfl secondNumber
      | infinity other =>
          rw [unpackedRank, unpackedRank, compare_toLex]
          cases sign <;> cases other <;> rfl
      | zero other =>
          rw [unpackedRank, unpackedRank, compare_toLex]
          cases sign <;> rfl
      | finite other otherSignificand otherExponent otherFilled =>
          rw [unpackedRank, unpackedRank, compare_toLex]
          cases sign with
          | positive =>
              cases other with
              | positive =>
                  simp only [signRank, one_mul, compare_cast]
                  rfl
              | negative => rfl
          | negative =>
              cases other with
              | positive => rfl
              | negative =>
                  simp only [signRank, neg_one_mul, compare_neg, compare_cast, ← Ordering.swap_then]
                  rfl

theorem isNaN_of_le {first second : Float} (le : first ≤ second) :
    first.isNaN = false ∧ second.isNaN = false := by
  have ordered : order first second ≠ none := by
    rcases (le_iff_order first second).mp le with less | same
    · rw [less]
      exact Option.some_ne_none _
    · rw [same]
      exact Option.some_ne_none _
  simpa only [Ne, order_eq_none_iff, not_or, Bool.not_eq_true] using ordered

section Numbers

variable {first second : Float} (number : first.isNaN = false) (otherNumber : second.isNaN = false)
include number otherNumber

theorem order_eq : order first second = some (compare (rank first) (rank second)) := by
  apply unpacked_compare_eq
  · rw [← Bool.not_eq_true] at number
    exact mt (isNaN_iff _).mpr number
  · rw [← Bool.not_eq_true] at otherNumber
    exact mt (isNaN_iff _).mpr otherNumber

theorem lt_iff_rank : first < second ↔ rank first < rank second := by
  rw [lt_iff_order, order_eq number otherNumber, Option.some_inj, compare_lt_iff_lt]

theorem le_iff_rank : first ≤ second ↔ rank first ≤ rank second := by
  rw [le_iff_order, order_eq number otherNumber, Option.some_inj, Option.some_inj,
    compare_lt_iff_lt, compare_eq_iff_eq, le_iff_lt_or_eq]

theorem beq_iff_rank : (first == second) = true ↔ rank first = rank second := by
  rw [beq_iff_order, order_eq number otherNumber, Option.some_inj, compare_eq_iff_eq]

end Numbers

end ExportWatch.Decimal

/-! The order of doubles. Two doubles one of which is no number are in no order, so
that neither comparison holds of them; any other two are comparable. -/

namespace ExportWatch.Decimal

open Float.Model

def order (first second : Float) : Option Ordering :=
  first.toModel.unpack.compare second.toModel.unpack

theorem magnitude_swap (significand other : Nat) (exponent otherExponent : Int) :
    (compare otherExponent exponent).then (compare other significand) =
      ((compare exponent otherExponent).then (compare significand other)).swap := by
  rw [Ordering.swap_then, Int.compare_swap, Nat.compare_swap]

theorem unpacked_compare_swap (first second : UnpackedFloat) :
    second.compare first = (first.compare second).map Ordering.swap := by
  cases first with
  | notANumber => cases second <;> rfl
  | infinity sign =>
      cases sign <;> cases second with
      | infinity other => cases other <;> rfl
      | _ => rfl
  | zero sign =>
      cases second with
      | infinity other => cases other <;> rfl
      | finite other _ _ _ => cases other <;> rfl
      | _ => rfl
  | finite sign _ _ _ =>
      cases second with
      | notANumber => cases sign <;> rfl
      | infinity other => cases sign <;> cases other <;> rfl
      | zero other => cases sign <;> rfl
      | finite other _ _ _ =>
          cases sign with
          | positive =>
              cases other with
              | positive => exact congrArg some (magnitude_swap _ _ _ _)
              | negative => rfl
          | negative =>
              cases other with
              | positive => rfl
              | negative =>
                  exact congrArg (fun order => some order.swap) (magnitude_swap _ _ _ _)

/-- Two numbers are always in some order. -/
theorem unpacked_compare_ne_none {first second : UnpackedFloat} (firstNumber : first ≠ .notANumber)
    (secondNumber : second ≠ .notANumber) : first.compare second ≠ none := by
  cases first with
  | notANumber => exact absurd rfl firstNumber
  | infinity sign =>
      cases second with
      | notANumber => exact absurd rfl secondNumber
      | infinity other => cases sign <;> cases other <;> exact Option.some_ne_none _
      | zero other => cases sign <;> exact Option.some_ne_none _
      | finite other _ _ _ => cases sign <;> exact Option.some_ne_none _
  | zero sign =>
      cases second with
      | notANumber => exact absurd rfl secondNumber
      | infinity other => cases other <;> exact Option.some_ne_none _
      | zero other => exact Option.some_ne_none _
      | finite other _ _ _ => cases other <;> exact Option.some_ne_none _
  | finite sign _ _ _ =>
      cases second with
      | notANumber => exact absurd rfl secondNumber
      | infinity other => cases sign <;> cases other <;> exact Option.some_ne_none _
      | zero other => cases sign <;> exact Option.some_ne_none _
      | finite other _ _ _ => cases sign <;> cases other <;> exact Option.some_ne_none _

theorem isNaN_iff (number : UnpackedFloat) : number.isNaN = true ↔ number = .notANumber := by
  cases number with
  | notANumber => exact ⟨fun _ => rfl, fun _ => rfl⟩
  | _ => exact ⟨fun isNaN => absurd isNaN Bool.false_ne_true, nofun⟩

theorem unpacked_compare_eq_none_iff (first second : UnpackedFloat) :
    first.compare second = none ↔ first.isNaN = true ∨ second.isNaN = true := by
  rw [isNaN_iff, isNaN_iff]
  constructor
  · intro none
    by_cases firstNumber : first = .notANumber
    · exact .inl firstNumber
    by_cases secondNumber : second = .notANumber
    · exact .inr secondNumber
    exact absurd none (unpacked_compare_ne_none firstNumber secondNumber)
  · rintro (rfl | rfl)
    · rfl
    · cases first <;> rfl

theorem order_swap (first second : Float) :
    order second first = (order first second).map Ordering.swap :=
  unpacked_compare_swap _ _

theorem order_eq_none_iff (first second : Float) :
    order first second = none ↔ first.isNaN = true ∨ second.isNaN = true :=
  unpacked_compare_eq_none_iff _ _

theorem lt_iff_order (first second : Float) :
    first < second ↔ order first second = some .lt := by
  change decide (first.toModel < second.toModel) = true ↔ _
  rw [decide_eq_true_iff]
  change (order first second == some .lt) = true ↔ _
  rw [beq_iff_eq]

theorem le_iff_order (first second : Float) :
    first ≤ second ↔ order first second = some .lt ∨ order first second = some .eq := by
  change decide (first.toModel ≤ second.toModel) = true ↔ _
  rw [decide_eq_true_iff]
  change (order first second).any (·.isLE) = true ↔ _
  cases order first second with
  | none => simp
  | some result => cases result <;> simp

/-- Being at most another is the same as not being above it just when both are
numbers. -/
theorem le_iff_not_lt_iff (first second : Float) :
    (first ≤ second ↔ ¬ second < first) ↔ first.isNaN = false ∧ second.isNaN = false := by
  have known := order_eq_none_iff first second
  rw [le_iff_order, lt_iff_order, order_swap first second]
  cases ordered : order first second with
  | none =>
      simp only [ordered, true_iff] at known
      rcases known with isNaN | isNaN
      · rw [isNaN]
        simp
      · rw [isNaN]
        simp
  | some result =>
      simp only [ordered, reduceCtorEq, false_iff, not_or, Bool.not_eq_true] at known
      rw [known.1, known.2]
      cases result <;> simp

example : ¬ ((1.0 : Float) ≤ 0.0 / 0.0) ∧ ¬ ((0.0 : Float) / 0.0 < 1.0) := by decide

end ExportWatch.Decimal

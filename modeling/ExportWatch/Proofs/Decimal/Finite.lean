import ExportWatch.Proofs.Decimal.Bits
import ExportWatch.Proofs.Decimal.Order

/-! Finite doubles are numbers, so any two of them are in some order. Equal ones need not be the
same: the zeros of both signs are equal. -/

namespace ExportWatch.Decimal

variable {first second : Float}

theorem isNaN_of_isFinite {value : Float} (finite : isFinite value = true) :
    value.isNaN = false := by
  have parts := isFinite_unpack finite
  change value.toModel.unpack.isNaN = false
  cases same : value.toModel.unpack with
  | notANumber =>
      rw [same] at parts
      cases parts
  | _ => rfl

theorem beq_iff_order : (first == second) = true ↔ order first second = some .eq := by
  change (order first second == some .eq) = true ↔ _
  rw [beq_iff_eq]

theorem beq_symm (same : (first == second) = true) : (second == first) = true := by
  rw [beq_iff_order] at same ⊢
  rw [order_swap first second, same]
  rfl

theorem order_self {value : Float} (finite : isFinite value = true) :
    order value value = some .eq := by
  have number : order value value ≠ none := by
    rw [Ne, order_eq_none_iff, isNaN_of_isFinite finite]
    simp
  have swapped := order_swap value value
  cases ordered : order value value with
  | none => exact absurd ordered number
  | some result =>
      rw [ordered] at swapped
      cases result with
      | eq => rfl
      | lt => cases swapped
      | gt => cases swapped

theorem beq_self {value : Float} (finite : isFinite value = true) : (value == value) = true :=
  beq_iff_order.mpr (order_self finite)

theorem le_self {value : Float} (finite : isFinite value = true) : value ≤ value :=
  (le_iff_order _ _).mpr (.inr (order_self finite))

theorem le_of_lt (less : first < second) : first ≤ second :=
  (le_iff_order _ _).mpr (.inl ((lt_iff_order _ _).mp less))

theorem le_of_beq (same : (first == second) = true) : first ≤ second :=
  (le_iff_order _ _).mpr (.inr (beq_iff_order.mp same))

theorem not_lt_of_lt (less : first < second) : ¬ second < first := by
  rw [lt_iff_order] at less ⊢
  rw [order_swap first second, less]
  simp

theorem not_lt_of_beq (same : (first == second) = true) : ¬ first < second := by
  rw [beq_iff_order] at same
  rw [lt_iff_order, same]
  simp

theorem lt_or_beq_or_gt (finite : isFinite first = true) (otherFinite : isFinite second = true) :
    first < second ∨ (first == second) = true ∨ second < first := by
  have number : order first second ≠ none := by
    rw [Ne, order_eq_none_iff, isNaN_of_isFinite finite, isNaN_of_isFinite otherFinite]
    simp
  rw [lt_iff_order, beq_iff_order, lt_iff_order, order_swap first second]
  cases ordered : order first second with
  | none => exact absurd ordered number
  | some result => cases result <;> simp

end ExportWatch.Decimal

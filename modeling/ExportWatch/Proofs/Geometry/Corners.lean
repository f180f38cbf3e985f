import ExportWatch.Geometry.Extent
import ExportWatch.Proofs.Decimal.Finite
import Mathlib.Logic.Basic

/-! Extents between two opposite corners whose coordinates are finite doubles. -/

namespace ExportWatch

open Decimal

/-! The lesser and the greater of two doubles. -/

/-- Of two doubles that are equal it is the second, both times. -/
inductive Sorted (first second : Float) : Float → Float → Prop where
  | ascending (less : first < second) : Sorted first second first second
  | descending (less : second < first) : Sorted first second second first
  | equal (same : (first == second) = true) : Sorted first second second second

namespace Sorted

variable {first second least greatest : Float}

theorem lesser_greater (finite : isFinite first = true) (otherFinite : isFinite second = true) :
    Sorted first second (lesser first second) (greater first second) := by
  have number : ¬ ¬ second ≤ second := not_not.mpr (le_self otherFinite)
  rcases lt_or_beq_or_gt finite otherFinite with less | same | less
  · have upper : greater first second = second := if_neg fun either =>
      either.elim (not_lt_of_lt less) number
    rw [lesser, if_pos (.inl less), upper]
    exact .ascending less
  · have lower : lesser first second = second := if_neg fun either =>
      either.elim (not_lt_of_beq same) number
    have upper : greater first second = second := if_neg fun either =>
      either.elim (not_lt_of_beq (beq_symm same)) number
    rw [lower, upper]
    exact .equal same
  · have lower : lesser first second = second := if_neg fun either =>
      either.elim (not_lt_of_lt less) number
    rw [lower, greater, if_pos (.inl less)]
    exact .descending less

theorem unique {otherLeast otherGreatest : Float} (sorted : Sorted first second least greatest)
    (other : Sorted first second otherLeast otherGreatest) :
    otherLeast = least ∧ otherGreatest = greatest := by
  cases sorted with
  | ascending less =>
      cases other with
      | ascending => exact ⟨rfl, rfl⟩
      | descending more => exact absurd more (not_lt_of_lt less)
      | equal same => exact absurd less (not_lt_of_beq same)
  | descending less =>
      cases other with
      | ascending more => exact absurd more (not_lt_of_lt less)
      | descending => exact ⟨rfl, rfl⟩
      | equal same => exact absurd less (not_lt_of_beq (beq_symm same))
  | equal same =>
      cases other with
      | ascending less => exact absurd less (not_lt_of_beq same)
      | descending less => exact absurd less (not_lt_of_beq (beq_symm same))
      | equal => exact ⟨rfl, rfl⟩

theorem le (sorted : Sorted first second least greatest) (finite : isFinite second = true) :
    least ≤ greatest := by
  cases sorted with
  | ascending less => exact le_of_lt less
  | descending less => exact le_of_lt less
  | equal => exact le_self finite

theorem equal_of_sorted {otherLeast otherGreatest : Float}
    (sorted : Sorted first second least greatest)
    (other : Sorted first second otherLeast otherGreatest) (finite : isFinite first = true)
    (otherFinite : isFinite second = true) :
    (otherLeast == least) = true ∧ (otherGreatest == greatest) = true := by
  rcases sorted.unique other with ⟨rfl, rfl⟩
  cases sorted with
  | ascending => exact ⟨beq_self finite, beq_self otherFinite⟩
  | descending => exact ⟨beq_self otherFinite, beq_self finite⟩
  | equal => exact ⟨beq_self otherFinite, beq_self otherFinite⟩

theorem reversed (sorted : Sorted first second least greatest) (finite : isFinite first = true)
    (otherFinite : isFinite second = true) :
    ∃ otherLeast otherGreatest, Sorted second first otherLeast otherGreatest ∧
      (otherLeast == least) = true ∧ (otherGreatest == greatest) = true := by
  cases sorted with
  | ascending less => exact ⟨_, _, .descending less, beq_self finite, beq_self otherFinite⟩
  | descending less => exact ⟨_, _, .ascending less, beq_self otherFinite, beq_self finite⟩
  | equal same => exact ⟨_, _, .equal (beq_symm same), same, same⟩

/-- In the other order the results are equal. -/
theorem swap {otherLeast otherGreatest : Float} (sorted : Sorted first second least greatest)
    (other : Sorted second first otherLeast otherGreatest) (finite : isFinite first = true)
    (otherFinite : isFinite second = true) :
    (otherLeast == least) = true ∧ (otherGreatest == greatest) = true := by
  rcases sorted.reversed finite otherFinite with ⟨_, _, reversed, equal⟩
  rcases reversed.unique other with ⟨rfl, rfl⟩
  exact equal

/-- What is in order already stays so. -/
theorem equal_iff_le (sorted : Sorted first second least greatest)
    (finite : isFinite first = true) (otherFinite : isFinite second = true) :
    ((least == first) = true ∧ (greatest == second) = true) ↔ first ≤ second := by
  cases sorted with
  | ascending less =>
      exact ⟨fun _ => le_of_lt less, fun _ => ⟨beq_self finite, beq_self otherFinite⟩⟩
  | descending less =>
      constructor
      · rintro ⟨same, -⟩
        exact absurd less (not_lt_of_beq same)
      · intro le
        rw [lt_iff_order] at less
        rw [le_iff_order, order_swap second first, less] at le
        rcases le with impossible | impossible <;> cases impossible
  | equal same => exact ⟨fun _ => le_of_beq same, fun _ => ⟨beq_symm same, beq_self otherFinite⟩⟩

end Sorted

namespace Extent

/-- Equality of all coordinates as numbers, so that the zeros of both signs are equal. -/
structure Equal (extent other : Extent Float) : Prop where
  west : (extent.west == other.west) = true
  south : (extent.south == other.south) = true
  east : (extent.east == other.east) = true
  north : (extent.north == other.north) = true

def Finite (extent : Extent Float) : Prop :=
  ∀ value ∈ [extent.west, extent.south, extent.east, extent.north], isFinite value = true

instance (extent : Extent Float) : Decidable extent.Finite :=
  inferInstanceAs (Decidable (∀ value ∈ [extent.west, extent.south, extent.east, extent.north],
    isFinite value = true))

/-- The two points are opposite corners. -/
structure SpannedBy (extent : Extent Float) (x1 y1 x2 y2 : Float) : Prop where
  lon : Sorted x1 x2 extent.west extent.east
  lat : Sorted y1 y2 extent.south extent.north

theorem SpannedBy.unique {extent other : Extent Float} {x1 y1 x2 y2 : Float}
    (spanned : extent.SpannedBy x1 y1 x2 y2) (otherSpanned : other.SpannedBy x1 y1 x2 y2) :
    other = extent := by
  have lon := spanned.lon.unique otherSpanned.lon
  have lat := spanned.lat.unique otherSpanned.lat
  cases extent
  cases other
  rw [mk.injEq]
  exact ⟨lon.1, lat.1, lon.2, lat.2⟩

/-- An extent is equal to the one that its corners span if they are in order. -/
theorem SpannedBy.equal_iff {extent box : Extent Float}
    (spanned : box.SpannedBy extent.west extent.south extent.east extent.north)
    (finite : extent.Finite) : box.Equal extent ↔ extent.Normalized := by
  simp only [Finite, List.forall_mem_cons] at finite
  rcases finite with ⟨west, south, east, north, -⟩
  rw [Normalized, ← spanned.lon.equal_iff_le west east, ← spanned.lat.equal_iff_le south north]
  exact ⟨fun equal => ⟨⟨equal.west, equal.east⟩, equal.south, equal.north⟩,
    fun parts => ⟨parts.1.1, parts.2.1, parts.1.2, parts.2.2⟩⟩

end Extent

end ExportWatch

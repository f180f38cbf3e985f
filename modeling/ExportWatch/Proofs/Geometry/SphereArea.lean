import ExportWatch.Geometry.SphereArea
import ExportWatch.Proofs.Geometry.Rewriting
import Mathlib.Algebra.BigOperators.Group.List.Basic
import Mathlib.Algebra.Order.Field.Basic
import Mathlib.Algebra.Order.Field.Rat
import Mathlib.Tactic.FieldSimp
import Mathlib.Tactic.Linarith
import Mathlib.Tactic.Ring

/-! Areas in exact arithmetic. The sum over the edges changes at most its sign when the
ring is written in another way, and over the corners of an extent it has a closed form.
The sine may be any function. -/

namespace ExportWatch

namespace Sphere

section Sum

variable {Scalar : Type} [Field Scalar] {sphere : Sphere Scalar} {factor : Scalar}

/-- A degree is a fixed number of radians. -/
def Scales (sphere : Sphere Scalar) (factor : Scalar) : Prop :=
  ∀ degrees, sphere.radians degrees = degrees * factor

theorem edgeSum_eq_sum (sphere : Sphere Scalar) (ring : Ring Scalar) :
    sphere.edgeSum ring = (ring.edges.map sphere.edgeTerm).sum := by
  rw [edgeSum, List.sum_eq_foldl, List.foldl_map]

theorem edgeSum_rotate (sphere : Sphere Scalar) (ring : Ring Scalar) (count : Nat) :
    sphere.edgeSum (ring.rotate count) = sphere.edgeSum ring := by
  rw [edgeSum_eq_sum, edgeSum_eq_sum]
  exact ((Ring.edges_rotate_perm ring count).map _).sum_eq

variable (scales : sphere.Scales factor)
include scales

theorem edgeTerm_flip (edge : Segment Scalar) :
    sphere.edgeTerm edge.flip = -sphere.edgeTerm edge := by
  simp only [edgeTerm, Segment.flip, scales _]
  ring

theorem edgeTerm_of_no_length (point : Position Scalar) : sphere.edgeTerm ⟨point, point⟩ = 0 := by
  rw [edgeTerm, scales, sub_self, zero_mul, zero_mul]

theorem edgeSum_reverse (ring : Ring Scalar) :
    sphere.edgeSum ring.reverse = -sphere.edgeSum ring := by
  rw [edgeSum_eq_sum, edgeSum_eq_sum, ((Ring.edges_reverse_perm ring).map _).sum_eq, List.map_map,
    List.sum_neg, List.map_map]
  exact congrArg (fun term => (ring.edges.map term).sum) (funext (edgeTerm_flip scales))

theorem edgeSum_closed (first : Position Scalar) (others : List (Position Scalar)) :
    sphere.edgeSum (first :: others ++ [first]) = sphere.edgeSum (first :: others) := by
  rw [edgeSum_eq_sum, edgeSum_eq_sum, Ring.edges_closed, List.map_append, List.sum_append,
    List.map_singleton, List.sum_singleton, edgeTerm_of_no_length scales, add_zero]

/-- Two positions make an edge there and an edge back. -/
theorem edgeSum_of_short {ring : Ring Scalar} (short : ring.length < 3) :
    sphere.edgeSum ring = 0 := by
  rw [edgeSum_eq_sum]
  match ring, short with
  | [], _ => rfl
  | [point], _ => simp [Ring.edges, edgeTerm_of_no_length scales]
  | [first, second], _ =>
      have back := edgeTerm_flip scales ⟨first, second⟩
      rw [Segment.flip] at back
      simp [Ring.edges, back]

/-! Upright sides add nothing; the two level sides are passed in opposite directions. -/

theorem edgeSum_corners (extent : Extent Scalar) :
    sphere.edgeSum extent.corners =
      2 * sphere.radians (extent.east - extent.west) *
        (sphere.sine (sphere.radians extent.south) -
          sphere.sine (sphere.radians extent.north)) := by
  rw [edgeSum_eq_sum]
  simp only [Extent.corners, Ring.edges, List.cons_append, List.nil_append,
    List.zipWith_cons_cons, List.zipWith_nil_left, List.map_cons, List.map_nil, List.sum_cons,
    List.sum_nil, edgeTerm, height, scales _]
  ring

end Sum

section Area

variable {Scalar : Type} [Field Scalar] [LinearOrder Scalar] [IsStrictOrderedRing Scalar]
variable {sphere : Sphere Scalar} {factor : Scalar}

theorem size_eq_abs (value : Scalar) : size value = |value| := by
  rw [size, zero_sub]
  split
  · next positive => exact (abs_of_pos positive).symm
  · next notPositive => exact (abs_of_nonpos (not_lt.mp notPositive)).symm

variable (scales : sphere.Scales factor)
include scales

/-- The rule for short rings is a case of the general one. -/
theorem ringArea_eq (ring : Ring Scalar) :
    sphere.ringArea ring = |sphere.edgeSum ring| * (sphere.radius * sphere.radius / 2) := by
  rw [ringArea]
  split
  · next short => rw [edgeSum_of_short scales short, abs_zero, zero_mul]
  · have square : 0 ≤ sphere.radius * sphere.radius / 2 :=
      div_nonneg (mul_self_nonneg _) zero_le_two
    rw [size_eq_abs, mul_assoc, mul_div_assoc, abs_mul, abs_of_nonneg square]

theorem ringArea_nonneg (ring : Ring Scalar) : 0 ≤ sphere.ringArea ring := by
  rw [ringArea_eq scales]
  exact mul_nonneg (abs_nonneg _) (div_nonneg (mul_self_nonneg _) zero_le_two)

theorem ringArea_of_rewrites {ring other : Ring Scalar} (rewrites : ring.Rewrites other) :
    sphere.ringArea ring = sphere.ringArea other := by
  rw [ringArea_eq scales, ringArea_eq scales]
  congr 1
  cases rewrites with
  | rotated _ count => rw [edgeSum_rotate]
  | reversed => rw [edgeSum_reverse scales, abs_neg]
  | closed first others => rw [edgeSum_closed scales]

theorem ringArea_corners (nonnegative : 0 ≤ factor) {extent : Extent Scalar}
    (normalized : extent.Normalized) :
    sphere.ringArea extent.corners =
      sphere.radius ^ 2 * sphere.radians (extent.east - extent.west) *
        |sphere.sine (sphere.radians extent.north) -
          sphere.sine (sphere.radians extent.south)| := by
  have breadth : 0 ≤ sphere.radians (extent.east - extent.west) := by
    rw [scales]
    exact mul_nonneg (sub_nonneg.mpr normalized.1) nonnegative
  rw [ringArea_eq scales, edgeSum_corners scales, abs_mul, abs_mul, abs_of_nonneg breadth,
    abs_sub_comm, abs_two]
  ring

/-- The area of a ring is not negative and is the same however the ring is written. The
area of an extent is its breadth times the difference in height of its level sides, on a
sphere of the given radius. -/
theorem area_of_any_writing (nonnegative : 0 ≤ factor) :
    (∀ ring, 0 ≤ sphere.ringArea ring) ∧
      (∀ ring other : Ring Scalar, ring.Same other →
        sphere.ringArea ring = sphere.ringArea other) ∧
      ∀ extent : Extent Scalar, extent.Normalized →
        let area := sphere.radius ^ 2 * sphere.radians (extent.east - extent.west) *
          |sphere.sine (sphere.radians extent.north) - sphere.sine (sphere.radians extent.south)|
        sphere.ringArea extent.corners = area ∧
          sphere.extentSquareKilometres extent = area / 10 ^ 6 := by
  refine ⟨ringArea_nonneg scales,
    fun _ _ same => same.eq_of_rewrites fun _ _ => ringArea_of_rewrites scales, ?_⟩
  intro extent normalized area
  have corners : sphere.ringArea extent.corners = area :=
    ringArea_corners scales nonnegative normalized
  refine ⟨corners, ?_⟩
  rw [extentSquareKilometres, ringSquareKilometres, corners]
  norm_num

end Area

/-- A triangle and an extent on a sphere of radius 3, with a parabola for the sine. -/
theorem area_of_any_writing_of_parabola :
    let sphere : Sphere ℚ := ⟨3, fun degrees => degrees / 2, fun angle => angle * angle⟩
    sphere.Scales (1 / 2) ∧
      sphere.ringArea [⟨0, 0⟩, ⟨4, 0⟩, ⟨4, 6⟩] =
        sphere.ringArea [⟨4, 0⟩, ⟨0, 0⟩, ⟨4, 6⟩, ⟨4, 0⟩] ∧
      sphere.ringArea (Extent.corners ⟨0, -2, 6, 4⟩) = 81 := by
  intro sphere
  have scales : sphere.Scales (1 / 2) := fun degrees => by simp only [sphere]; ring
  rcases area_of_any_writing scales (by norm_num) with ⟨-, same, extents⟩
  refine ⟨scales, same _ _ ?_, ?_⟩
  · exact .trans _ _ _ (.rel _ _ (.reversed _))
      (.trans _ _ _ (.rel _ _ (.rotated _ 1)) (.rel _ _ (.closed _ _)))
  · have area := (extents ⟨0, -2, 6, 4⟩ ⟨by norm_num, by norm_num⟩).1
    rw [area]
    norm_num [sphere]

end Sphere

end ExportWatch

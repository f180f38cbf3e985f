import ExportWatch.Geometry.Extent
import Mathlib.Order.Lattice

/-! Extents over coordinates in a linear order. -/

namespace ExportWatch

namespace Extent

variable {Scalar : Type} [LT Scalar] [LE Scalar] [DecidableLT Scalar] [DecidableLE Scalar]

theorem covering_eq_none_iff {points : List (Position Scalar)} :
    covering points = none ↔ points = [] := by
  cases points with
  | nil => exact ⟨fun _ => rfl, fun _ => rfl⟩
  | cons first others => exact ⟨nofun, nofun⟩

/-- The south-west corner of what two extents share, if they share anything. -/
def sharedCorner (extent other : Extent Scalar) : Position Scalar :=
  ⟨greater extent.west other.west, greater extent.south other.south⟩

end Extent

section Order

variable {Scalar : Type} [LinearOrder Scalar]

theorem lesser_eq_min {Scalar : Type} [LinearOrder Scalar] (first second : Scalar) :
    lesser first second = min first second := by
  unfold lesser
  split
  · rename_i less
    exact (min_eq_left (less.resolve_right (not_not.mpr le_rfl)).le).symm
  · rename_i notLess
    exact (min_eq_right (not_lt.mp fun less => notLess (.inl less))).symm

theorem greater_eq_max {Scalar : Type} [LinearOrder Scalar] (first second : Scalar) :
    greater first second = max first second := by
  unfold greater
  split
  · rename_i less
    exact (max_eq_left (less.resolve_right (not_not.mpr le_rfl)).le).symm
  · rename_i notLess
    exact (max_eq_right (not_lt.mp fun less => notLess (.inl less))).symm

namespace Extent

theorem contains_iff {extent : Extent Scalar} {point : Position Scalar} :
    extent.contains point = true ↔
      (extent.west ≤ point.lon ∧ point.lon ≤ extent.east) ∧
        extent.south ≤ point.lat ∧ point.lat ≤ extent.north := by
  simp [contains, and_assoc]

theorem overlaps_of_contains {extent other : Extent Scalar} {point : Position Scalar}
    (contained : extent.contains point = true) (otherContained : other.contains point = true) :
    extent.overlaps other = true := by
  rcases contains_iff.mp contained with ⟨⟨west, east⟩, south, north⟩
  rcases contains_iff.mp otherContained with ⟨⟨otherWest, otherEast⟩, otherSouth, otherNorth⟩
  simp [overlaps, west.trans otherEast, otherWest.trans east, south.trans otherNorth,
    otherSouth.trans north]

theorem contains_corner {extent : Extent Scalar} (normalized : extent.Normalized)
    {corner : Position Scalar} (member : corner ∈ extent.corners) :
    extent.contains corner = true := by
  rcases normalized with ⟨wide, high⟩
  simp only [corners, List.mem_cons, List.not_mem_nil, or_false] at member
  rcases member with rfl | rfl | rfl | rfl <;> simp [contains, wide, high]

/-! What an extent contains it still contains when it is widened, and the new
point besides. -/

theorem contains_around (point : Position Scalar) : (around point).contains point = true := by
  simp [contains_iff, around, ofCorners, lesser_eq_min, greater_eq_max]

theorem contains_widen (extent : Extent Scalar) (point : Position Scalar) :
    (extent.widen point).contains point = true := by
  simp [contains_iff, widen, lesser_eq_min, greater_eq_max]

theorem contains_widen_of_contains {extent : Extent Scalar} {point : Position Scalar}
    (contained : extent.contains point = true) (other : Position Scalar) :
    (extent.widen other).contains point = true := by
  rcases contains_iff.mp contained with ⟨⟨west, east⟩, south, north⟩
  simp [contains_iff, widen, lesser_eq_min, greater_eq_max, west, east, south, north]

theorem contains_foldl_widen (points : List (Position Scalar)) (extent : Extent Scalar)
    {point : Position Scalar} (included : extent.contains point = true ∨ point ∈ points) :
    (points.foldl widen extent).contains point = true := by
  induction points generalizing extent with
  | nil =>
      rcases included with contained | member
      · exact contained
      · cases member
  | cons first others induction =>
      apply induction
      rcases included with contained | member
      · exact .inl (contains_widen_of_contains contained first)
      · rcases List.mem_cons.mp member with rfl | later
        · exact .inl (contains_widen extent point)
        · exact .inr later

theorem contains_of_covering {points : List (Position Scalar)} {bounds : Extent Scalar}
    (covered : covering points = some bounds) {point : Position Scalar}
    (member : point ∈ points) : bounds.contains point = true := by
  cases points with
  | nil => cases member
  | cons first others =>
      cases covered
      apply contains_foldl_widen
      rcases List.mem_cons.mp member with rfl | later
      · exact .inl (contains_around point)
      · exact .inr later

theorem covering_of_mem {points : List (Position Scalar)} {point : Position Scalar}
    (member : point ∈ points) :
    ∃ bounds, covering points = some bounds ∧ bounds.contains point = true := by
  cases covered : covering points with
  | none =>
      cases points with
      | nil => cases member
      | cons first others => cases covered
  | some bounds => exact ⟨bounds, rfl, contains_of_covering covered member⟩

/-! The smallest extent around several points is within every extent that contains them,
so it depends on nothing but which points they are. -/

structure Within (inner outer : Extent Scalar) : Prop where
  west : outer.west ≤ inner.west
  south : outer.south ≤ inner.south
  east : inner.east ≤ outer.east
  north : inner.north ≤ outer.north

theorem Within.antisymm {extent other : Extent Scalar} (inside : extent.Within other)
    (outside : other.Within extent) : extent = other := by
  cases extent
  cases other
  rw [Extent.mk.injEq]
  exact ⟨le_antisymm outside.west inside.west, le_antisymm outside.south inside.south,
    le_antisymm inside.east outside.east, le_antisymm inside.north outside.north⟩

theorem within_around {outer : Extent Scalar} {point : Position Scalar}
    (contained : outer.contains point = true) : (around point).Within outer := by
  rcases contains_iff.mp contained with ⟨⟨west, east⟩, south, north⟩
  constructor <;> simpa [around, ofCorners, lesser_eq_min, greater_eq_max]

theorem within_widen {inner outer : Extent Scalar} {point : Position Scalar}
    (within : inner.Within outer) (contained : outer.contains point = true) :
    (inner.widen point).Within outer := by
  rcases contains_iff.mp contained with ⟨⟨west, east⟩, south, north⟩
  constructor
  · simpa [widen, lesser_eq_min] using ⟨within.west, west⟩
  · simpa [widen, lesser_eq_min] using ⟨within.south, south⟩
  · simpa [widen, greater_eq_max] using ⟨within.east, east⟩
  · simpa [widen, greater_eq_max] using ⟨within.north, north⟩

theorem within_foldl_widen {points : List (Position Scalar)} {inner outer : Extent Scalar}
    (within : inner.Within outer) (contained : ∀ point ∈ points, outer.contains point = true) :
    (points.foldl widen inner).Within outer := by
  induction points generalizing inner with
  | nil => exact within
  | cons first others induction =>
      rw [List.forall_mem_cons] at contained
      exact induction (within_widen within contained.1) contained.2

theorem within_of_covering {points : List (Position Scalar)} {bounds outer : Extent Scalar}
    (covered : covering points = some bounds)
    (contained : ∀ point ∈ points, outer.contains point = true) : bounds.Within outer := by
  cases points with
  | nil => cases covered
  | cons first others =>
      cases covered
      rw [List.forall_mem_cons] at contained
      exact within_foldl_widen (within_around contained.1) contained.2

theorem covering_eq_of_mem_iff {points others : List (Position Scalar)}
    (same : ∀ point, point ∈ points ↔ point ∈ others) : covering points = covering others := by
  cases points with
  | nil =>
      have none : others = [] := List.eq_nil_iff_forall_not_mem.mpr fun point member =>
        List.not_mem_nil ((same point).mpr member)
      rw [none]
  | cons first rest =>
      rcases covering_of_mem ((same first).mp List.mem_cons_self) with ⟨bounds, covered, -⟩
      rcases covering_of_mem (List.mem_cons_self (a := first) (l := rest)) with
        ⟨firstBounds, firstCovered, -⟩
      rw [covered, firstCovered]
      congr 1
      apply Within.antisymm
      · exact within_of_covering firstCovered fun point member =>
          contains_of_covering covered ((same point).mp member)
      · exact within_of_covering covered fun point member =>
          contains_of_covering firstCovered ((same point).mpr member)

theorem normalized_of_contains {extent : Extent Scalar} {point : Position Scalar}
    (contained : extent.contains point = true) : extent.Normalized := by
  rcases contains_iff.mp contained with ⟨⟨west, east⟩, south, north⟩
  exact ⟨west.trans east, south.trans north⟩

theorem normalized_of_covering {points : List (Position Scalar)} {bounds : Extent Scalar}
    (covered : covering points = some bounds) : bounds.Normalized := by
  cases points with
  | nil => cases covered
  | cons first others =>
      exact normalized_of_contains (contains_of_covering covered List.mem_cons_self)

theorem Within.contains {inner outer : Extent Scalar} (within : inner.Within outer)
    {point : Position Scalar} (contained : inner.contains point = true) :
    outer.contains point = true := by
  rcases contains_iff.mp contained with ⟨⟨west, east⟩, south, north⟩
  exact contains_iff.mpr ⟨⟨within.west.trans west, east.trans within.east⟩,
    within.south.trans south, north.trans within.north⟩

theorem within_of_contains_corners {inner outer : Extent Scalar}
    (least : outer.contains ⟨inner.west, inner.south⟩ = true)
    (greatest : outer.contains ⟨inner.east, inner.north⟩ = true) : inner.Within outer := by
  rcases contains_iff.mp least with ⟨⟨west, -⟩, south, -⟩
  rcases contains_iff.mp greatest with ⟨⟨-, east⟩, -, north⟩
  exact ⟨west, south, east, north⟩

theorem sharedCorner_comm (extent other : Extent Scalar) :
    extent.sharedCorner other = other.sharedCorner extent := by
  simp only [sharedCorner, greater_eq_max, max_comm]

theorem overlaps_comm (extent other : Extent Scalar) :
    extent.overlaps other = other.overlaps extent := by
  simp only [overlaps, Bool.and_assoc, Bool.and_left_comm, Bool.and_comm]

theorem contains_sharedCorner {extent other : Extent Scalar} (normalized : extent.Normalized)
    (overlapping : extent.overlaps other = true) :
    extent.contains (extent.sharedCorner other) = true := by
  simp only [overlaps, Bool.and_eq_true, decide_eq_true_eq] at overlapping
  rcases overlapping with ⟨⟨⟨-, west⟩, -⟩, south⟩
  rcases normalized with ⟨wide, high⟩
  simp [contains_iff, sharedCorner, greater_eq_max, west, south, wide, high]

end Extent

end Order

end ExportWatch

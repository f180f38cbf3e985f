import ExportWatch.Geometry.Polygon
import ExportWatch.Proofs.Geometry.Segment

/-! Segments and the border of an extent: an extent holds every segment between two
of its points, and a segment that leaves it meets one of its sides. -/

namespace ExportWatch

namespace Segment

variable {segment : Segment ℚ} {point : Position ℚ}

theorem Covers.between (covered : segment.Covers point) :
    (min segment.start.lon segment.finish.lon ≤ point.lon ∧
        point.lon ≤ max segment.start.lon segment.finish.lon) ∧
      min segment.start.lat segment.finish.lat ≤ point.lat ∧
        point.lat ≤ max segment.start.lat segment.finish.lat :=
  spans_iff.mp (Bool.and_eq_true_iff.mp (touches_iff.mpr covered)).2

theorem covers_of_level {height : ℚ} (start : segment.start.lat = height)
    (finish : segment.finish.lat = height) (same : point.lat = height)
    (least : min segment.start.lon segment.finish.lon ≤ point.lon)
    (greatest : point.lon ≤ max segment.start.lon segment.finish.lon) :
    segment.Covers point := by
  rw [← touches_iff, touches, Bool.and_eq_true, isZero_iff, spans_iff, start, finish, same]
  refine ⟨?_, ⟨least, greatest⟩, by simp⟩
  rw [orientation, start, finish, same]
  ring

theorem covers_of_upright {breadth : ℚ} (start : segment.start.lon = breadth)
    (finish : segment.finish.lon = breadth) (same : point.lon = breadth)
    (least : min segment.start.lat segment.finish.lat ≤ point.lat)
    (greatest : point.lat ≤ max segment.start.lat segment.finish.lat) :
    segment.Covers point := by
  rw [← touches_iff, touches, Bool.and_eq_true, isZero_iff, spans_iff, start, finish, same]
  refine ⟨?_, by simp, ⟨least, greatest⟩⟩
  rw [orientation, start, finish, same]
  ring

/-- A segment covers what is between two of its points. -/
theorem Covers.trans {first second : Position ℚ} (firstCovered : segment.Covers first)
    (secondCovered : segment.Covers second)
    (covered : (Segment.mk first second).Covers point) : segment.Covers point := by
  rcases firstCovered with ⟨firstPart, firstNonnegative, firstAtMostOne, rfl⟩
  rcases secondCovered with ⟨secondPart, secondNonnegative, secondAtMostOne, rfl⟩
  rcases covered with ⟨part, nonnegative, atMostOne, rfl⟩
  have rest : 0 ≤ 1 - part := by linarith
  refine ⟨(1 - part) * firstPart + part * secondPart, ?_, ?_, ?_⟩
  · exact add_nonneg (mul_nonneg rest firstNonnegative) (mul_nonneg nonnegative secondNonnegative)
  · have firstLeast := mul_le_mul_of_nonneg_left firstAtMostOne rest
    have secondLeast := mul_le_mul_of_nonneg_left secondAtMostOne nonnegative
    linarith
  · simp only [along, Position.mk.injEq]
    constructor <;> ring

/-! Between two points there is one at every height between theirs, and at every
breadth. -/

theorem exists_covers_lat {first second : Position ℚ} {height : ℚ}
    (least : min first.lat second.lat ≤ height) (greatest : height ≤ max first.lat second.lat) :
    ∃ point, (Segment.mk first second).Covers point ∧ point.lat = height := by
  rcases between_iff.mp ⟨least, greatest⟩ with ⟨part, nonnegative, atMostOne, reached⟩
  exact ⟨_, covers_along _ nonnegative atMostOne, reached⟩

theorem exists_covers_lon {first second : Position ℚ} {breadth : ℚ}
    (least : min first.lon second.lon ≤ breadth) (greatest : breadth ≤ max first.lon second.lon) :
    ∃ point, (Segment.mk first second).Covers point ∧ point.lon = breadth := by
  rcases between_iff.mp ⟨least, greatest⟩ with ⟨part, nonnegative, atMostOne, reached⟩
  exact ⟨_, covers_along _ nonnegative atMostOne, reached⟩

end Segment

namespace Extent

variable {extent : Extent ℚ} {segment : Segment ℚ} {point : Position ℚ}

theorem contains_of_covers (start : extent.contains segment.start = true)
    (finish : extent.contains segment.finish = true) (covered : segment.Covers point) :
    extent.contains point = true := by
  rcases contains_iff.mp start with ⟨⟨startWest, startEast⟩, startSouth, startNorth⟩
  rcases contains_iff.mp finish with ⟨⟨finishWest, finishEast⟩, finishSouth, finishNorth⟩
  rcases covered.between with ⟨⟨leastLon, greatestLon⟩, leastLat, greatestLat⟩
  exact contains_iff.mpr
    ⟨⟨(le_min startWest finishWest).trans leastLon,
        greatestLon.trans (max_le startEast finishEast)⟩,
      (le_min startSouth finishSouth).trans leastLat,
      greatestLat.trans (max_le startNorth finishNorth)⟩

/-! The four sides: two are level and two are upright. -/

theorem exists_level_side (west : extent.west ≤ point.lon) (east : point.lon ≤ extent.east)
    (onSide : point.lat = extent.south ∨ point.lat = extent.north) :
    ∃ side ∈ Ring.edges extent.corners, side.Covers point := by
  rcases onSide with south | north
  · refine ⟨⟨⟨extent.west, extent.south⟩, ⟨extent.east, extent.south⟩⟩, ?_, ?_⟩
    · simp [Ring.edges, corners]
    · exact Segment.covers_of_level rfl rfl south (min_le_of_left_le west)
        (le_max_of_le_right east)
  · refine ⟨⟨⟨extent.east, extent.north⟩, ⟨extent.west, extent.north⟩⟩, ?_, ?_⟩
    · simp [Ring.edges, corners]
    · exact Segment.covers_of_level rfl rfl north (min_le_of_right_le west)
        (le_max_of_le_left east)

theorem exists_upright_side (south : extent.south ≤ point.lat) (north : point.lat ≤ extent.north)
    (onSide : point.lon = extent.west ∨ point.lon = extent.east) :
    ∃ side ∈ Ring.edges extent.corners, side.Covers point := by
  rcases onSide with west | east
  · refine ⟨⟨⟨extent.west, extent.north⟩, ⟨extent.west, extent.south⟩⟩, ?_, ?_⟩
    · simp [Ring.edges, corners]
    · exact Segment.covers_of_upright rfl rfl west (min_le_of_right_le south)
        (le_max_of_le_left north)
  · refine ⟨⟨⟨extent.east, extent.south⟩, ⟨extent.east, extent.north⟩⟩, ?_, ?_⟩
    · simp [Ring.edges, corners]
    · exact Segment.covers_of_upright rfl rfl east (min_le_of_left_le south)
        (le_max_of_le_right north)

theorem contains_of_side (normalized : extent.Normalized) {side : Segment ℚ}
    (member : side ∈ Ring.edges extent.corners) (covered : side.Covers point) :
    extent.contains point = true := by
  simp only [Ring.edges, corners, List.cons_append, List.nil_append, List.zipWith_cons_cons,
    List.zipWith_nil_left, List.mem_cons, List.not_mem_nil, or_false] at member
  have ends : side.start ∈ extent.corners ∧ side.finish ∈ extent.corners := by
    rcases member with rfl | rfl | rfl | rfl <;> simp [corners]
  exact contains_of_covers (contains_corner normalized ends.1)
    (contains_corner normalized ends.2) covered

/-! From a point outside an extent to a point in it, a side is passed. The way is
cut where it comes between the west and the east, and from there it can only be too
low or too high. -/

theorem border_of_level {outer inner : Position ℚ}
    (west : extent.west ≤ outer.lon) (east : outer.lon ≤ extent.east)
    (outside : extent.contains outer = false) (inside : extent.contains inner = true) :
    ∃ point, (Segment.mk outer inner).Covers point ∧
      ∃ side ∈ Ring.edges extent.corners, side.Covers point := by
  rcases contains_iff.mp inside with ⟨⟨innerWest, innerEast⟩, innerSouth, innerNorth⟩
  have passed {height : ℚ} (onSide : height = extent.south ∨ height = extent.north)
      (least : min outer.lat inner.lat ≤ height) (greatest : height ≤ max outer.lat inner.lat) :
      ∃ point, (Segment.mk outer inner).Covers point ∧
        ∃ side ∈ Ring.edges extent.corners, side.Covers point := by
    rcases Segment.exists_covers_lat least greatest with ⟨point, covered, rfl⟩
    refine ⟨point, covered, exists_level_side ?_ ?_ onSide⟩
    · exact (le_min west innerWest).trans covered.between.1.1
    · exact covered.between.1.2.trans (max_le east innerEast)
  rcases lt_or_ge outer.lat extent.south with low | notLow
  · exact passed (.inl rfl) (min_le_of_left_le low.le) (le_max_of_le_right innerSouth)
  rcases lt_or_ge extent.north outer.lat with high | notHigh
  · exact passed (.inr rfl) (min_le_of_right_le innerNorth) (le_max_of_le_left high.le)
  have contained : extent.contains outer = true :=
    contains_iff.mpr ⟨⟨west, east⟩, notLow, notHigh⟩
  rw [outside] at contained
  cases contained

theorem border_between {outer inner : Position ℚ}
    (outside : extent.contains outer = false) (inside : extent.contains inner = true) :
    ∃ point, (Segment.mk outer inner).Covers point ∧
      ∃ side ∈ Ring.edges extent.corners, side.Covers point := by
  rcases contains_iff.mp inside with ⟨⟨innerWest, innerEast⟩, innerSouth, innerNorth⟩
  have wide : extent.west ≤ extent.east := innerWest.trans innerEast
  have passed {breadth : ℚ} (onSide : breadth = extent.west ∨ breadth = extent.east)
      (least : min outer.lon inner.lon ≤ breadth) (greatest : breadth ≤ max outer.lon inner.lon) :
      ∃ point, (Segment.mk outer inner).Covers point ∧
        ∃ side ∈ Ring.edges extent.corners, side.Covers point := by
    rcases Segment.exists_covers_lon least greatest with ⟨cut, covered, rfl⟩
    cases contained : extent.contains cut with
    | true =>
        rcases contains_iff.mp contained with ⟨-, south, north⟩
        exact ⟨cut, covered, exists_upright_side south north onSide⟩
    | false =>
        have within : extent.west ≤ cut.lon ∧ cut.lon ≤ extent.east := by
          rcases onSide with west | east
          · exact ⟨west.ge, west.le.trans wide⟩
          · exact ⟨wide.trans east.ge, east.le⟩
        rcases border_of_level within.1 within.2 contained inside with ⟨point, beyond, side⟩
        exact ⟨point, covered.trans (Segment.covers_finish _) beyond, side⟩
  rcases lt_or_ge outer.lon extent.west with left | notLeft
  · exact passed (.inl rfl) (min_le_of_left_le left.le) (le_max_of_le_right innerWest)
  rcases lt_or_ge extent.east outer.lon with right | notRight
  · exact passed (.inr rfl) (min_le_of_right_le innerEast) (le_max_of_le_left right.le)
  exact border_of_level notLeft notRight outside inside

theorem meets_side_of_leaves (outside : extent.contains segment.start = false)
    (covered : segment.Covers point) (inside : extent.contains point = true) :
    ∃ side ∈ Ring.edges extent.corners, segment.meets side = true := by
  rcases border_between outside inside with ⟨met, between, side, member, sideCovers⟩
  refine ⟨side, member, Segment.meets_iff.mpr ⟨met, ?_, sideCovers⟩⟩
  exact (Segment.covers_start segment).trans covered between

end Extent

end ExportWatch

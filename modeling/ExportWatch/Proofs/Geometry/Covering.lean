import ExportWatch.Proofs.Decimal.Rank
import ExportWatch.Proofs.Geometry.Corners
import ExportWatch.Proofs.Geometry.Extent

/-! Extents of doubles. A position or an extent is known from the ranks of its coordinates as long
as these are numbers, and ranks are in a linear order. So the extent around several positions is the
least one that contains them, and extents that overlap share a position. -/

namespace ExportWatch

open Decimal

/-! The lesser and the greater of two numbers. -/

section Numbers

variable {first second : Float}

theorem isNaN_lesser (number : first.isNaN = false) (otherNumber : second.isNaN = false) :
    (lesser first second).isNaN = false := by
  unfold lesser
  split
  · exact number
  · exact otherNumber

theorem isNaN_greater (number : first.isNaN = false) (otherNumber : second.isNaN = false) :
    (greater first second).isNaN = false := by
  unfold greater
  split
  · exact number
  · exact otherNumber

theorem rank_lesser (number : first.isNaN = false) (otherNumber : second.isNaN = false) :
    rank (lesser first second) = lesser (rank first) (rank second) := by
  simp only [lesser, lt_iff_rank number otherNumber, le_iff_rank otherNumber otherNumber,
    apply_ite rank]

theorem rank_greater (number : first.isNaN = false) (otherNumber : second.isNaN = false) :
    rank (greater first second) = greater (rank first) (rank second) := by
  simp only [greater, lt_iff_rank otherNumber number, le_iff_rank otherNumber otherNumber,
    apply_ite rank]

end Numbers

/-! Positions and extents whose coordinates are numbers, finite or not. -/

structure Position.Numeric (point : Position Float) : Prop where
  lon : point.lon.isNaN = false
  lat : point.lat.isNaN = false

instance (point : Position Float) : Decidable point.Numeric :=
  decidable_of_iff (point.lon.isNaN = false ∧ point.lat.isNaN = false)
    ⟨fun numbers => ⟨numbers.1, numbers.2⟩, fun numeric => ⟨numeric.lon, numeric.lat⟩⟩

def Position.ranked (point : Position Float) : Position Rank :=
  ⟨rank point.lon, rank point.lat⟩

namespace Extent

structure Numeric (extent : Extent Float) : Prop where
  west : extent.west.isNaN = false
  south : extent.south.isNaN = false
  east : extent.east.isNaN = false
  north : extent.north.isNaN = false

def ranked (extent : Extent Float) : Extent Rank :=
  ⟨rank extent.west, rank extent.south, rank extent.east, rank extent.north⟩

variable {extent other : Extent Float} {point : Position Float}

theorem Normalized.numeric (normalized : extent.Normalized) : extent.Numeric := by
  rcases normalized with ⟨wide, high⟩
  exact ⟨(isNaN_of_le wide).1, (isNaN_of_le high).1, (isNaN_of_le wide).2, (isNaN_of_le high).2⟩

theorem normalized_ranked (numeric : extent.Numeric) :
    extent.ranked.Normalized ↔ extent.Normalized := by
  rw [Normalized, Normalized, le_iff_rank numeric.west numeric.east,
    le_iff_rank numeric.south numeric.north]
  rfl

theorem contains_ranked (numeric : extent.Numeric) (pointNumeric : point.Numeric) :
    extent.ranked.contains point.ranked = extent.contains point := by
  simp only [contains, le_iff_rank numeric.west pointNumeric.lon,
    le_iff_rank pointNumeric.lon numeric.east, le_iff_rank numeric.south pointNumeric.lat,
    le_iff_rank pointNumeric.lat numeric.north]
  rfl

theorem overlaps_ranked (numeric : extent.Numeric) (otherNumeric : other.Numeric) :
    extent.ranked.overlaps other.ranked = extent.overlaps other := by
  simp only [overlaps, le_iff_rank numeric.west otherNumeric.east,
    le_iff_rank otherNumeric.west numeric.east, le_iff_rank numeric.south otherNumeric.north,
    le_iff_rank otherNumeric.south numeric.north]
  rfl

theorem numeric_of_contains (contained : extent.contains point = true) :
    extent.Numeric ∧ point.Numeric := by
  simp only [contains, Bool.and_eq_true, decide_eq_true_eq] at contained
  rcases contained with ⟨⟨⟨west, east⟩, south⟩, north⟩
  exact ⟨⟨(isNaN_of_le west).1, (isNaN_of_le south).1, (isNaN_of_le east).2,
    (isNaN_of_le north).2⟩, ⟨(isNaN_of_le west).2, (isNaN_of_le south).2⟩⟩

theorem equal_iff_ranked (numeric : extent.Numeric) (otherNumeric : other.Numeric) :
    extent.Equal other ↔ extent.ranked = other.ranked := by
  rw [ranked, ranked, mk.injEq, ← beq_iff_rank numeric.west otherNumeric.west,
    ← beq_iff_rank numeric.south otherNumeric.south, ← beq_iff_rank numeric.east otherNumeric.east,
    ← beq_iff_rank numeric.north otherNumeric.north]
  exact ⟨fun equal => ⟨equal.west, equal.south, equal.east, equal.north⟩,
    fun ⟨west, south, east, north⟩ => ⟨west, south, east, north⟩⟩

/-! The extent around several positions is formed alike from their ranks. -/

theorem numeric_widen (numeric : extent.Numeric) (pointNumeric : point.Numeric) :
    (extent.widen point).Numeric where
  west := isNaN_lesser numeric.west pointNumeric.lon
  south := isNaN_lesser numeric.south pointNumeric.lat
  east := isNaN_greater numeric.east pointNumeric.lon
  north := isNaN_greater numeric.north pointNumeric.lat

theorem ranked_widen (numeric : extent.Numeric) (pointNumeric : point.Numeric) :
    (extent.widen point).ranked = extent.ranked.widen point.ranked := by
  simp only [ranked, widen, rank_lesser numeric.west pointNumeric.lon,
    rank_lesser numeric.south pointNumeric.lat, rank_greater numeric.east pointNumeric.lon,
    rank_greater numeric.north pointNumeric.lat]
  rfl

theorem numeric_around (numeric : point.Numeric) : (around point).Numeric where
  west := isNaN_lesser numeric.lon numeric.lon
  south := isNaN_lesser numeric.lat numeric.lat
  east := isNaN_greater numeric.lon numeric.lon
  north := isNaN_greater numeric.lat numeric.lat

theorem ranked_around (numeric : point.Numeric) :
    (around point).ranked = around point.ranked := by
  simp only [ranked, around, ofCorners, rank_lesser numeric.lon numeric.lon,
    rank_lesser numeric.lat numeric.lat, rank_greater numeric.lon numeric.lon,
    rank_greater numeric.lat numeric.lat]
  rfl

variable {points : List (Position Float)}

theorem foldl_widen_ranked (extentNumeric : extent.Numeric)
    (numeric : ∀ point ∈ points, point.Numeric) :
    (points.foldl widen extent).Numeric ∧
      (points.foldl widen extent).ranked =
        (points.map Position.ranked).foldl widen extent.ranked := by
  induction points generalizing extent with
  | nil => exact ⟨extentNumeric, rfl⟩
  | cons first others induction =>
      rw [List.forall_mem_cons] at numeric
      rw [List.map_cons, List.foldl_cons, List.foldl_cons, ← ranked_widen extentNumeric numeric.1]
      exact induction (numeric_widen extentNumeric numeric.1) numeric.2

theorem covering_ranked (numeric : ∀ point ∈ points, point.Numeric) {bounds : Extent Float}
    (covered : covering points = some bounds) :
    bounds.Numeric ∧ covering (points.map Position.ranked) = some bounds.ranked := by
  cases points with
  | nil => cases covered
  | cons first others =>
      cases covered
      rw [List.forall_mem_cons] at numeric
      rcases foldl_widen_ranked (numeric_around numeric.1) numeric.2 with ⟨boundsNumeric, same⟩
      rw [same, ranked_around numeric.1]
      exact ⟨boundsNumeric, rfl⟩

/-! Least extents. -/

/-- Every extent that contains the points contains all that this one does. -/
structure LeastAround (extent : Extent Float) (points : List (Position Float)) : Prop where
  normalized : extent.Normalized
  contains : ∀ point ∈ points, extent.contains point = true
  least : ∀ outer : Extent Float, outer.Normalized →
    (∀ point ∈ points, outer.contains point = true) →
      ∀ point, extent.contains point = true → outer.contains point = true

theorem leastAround_of_covering (numeric : ∀ point ∈ points, point.Numeric)
    {bounds : Extent Float} (covered : covering points = some bounds) :
    bounds.LeastAround points := by
  rcases covering_ranked numeric covered with ⟨boundsNumeric, rankedCovered⟩
  refine ⟨?normalized, ?contains, ?least⟩
  case normalized =>
    exact (normalized_ranked boundsNumeric).mp (normalized_of_covering rankedCovered)
  case contains =>
    intro point member
    rw [← contains_ranked boundsNumeric (numeric point member)]
    exact contains_of_covering rankedCovered (List.mem_map_of_mem member)
  case least =>
    intro outer normalized contained point inside
    have outerNumeric := normalized.numeric
    have pointNumeric := (numeric_of_contains inside).2
    have within : bounds.ranked.Within outer.ranked := by
      refine within_of_covering rankedCovered fun other member => ?_
      rcases List.mem_map.mp member with ⟨origin, originMember, rfl⟩
      rw [contains_ranked outerNumeric (numeric origin originMember)]
      exact contained origin originMember
    rw [← contains_ranked boundsNumeric pointNumeric] at inside
    rw [← contains_ranked outerNumeric pointNumeric]
    exact within.contains inside

/-- An extent is known up to equality from the positions in it. -/
theorem within_ranked_of_contains (normalized : extent.Normalized) (otherNumeric : other.Numeric)
    (contained : ∀ point, extent.contains point = true → other.contains point = true) :
    extent.ranked.Within other.ranked := by
  have numeric := normalized.numeric
  have corner (corner : Position Float) (cornerNumeric : corner.Numeric)
      (member : corner.ranked ∈ extent.ranked.corners) :
      other.ranked.contains corner.ranked = true := by
    rw [contains_ranked otherNumeric cornerNumeric]
    apply contained
    rw [← contains_ranked numeric cornerNumeric]
    exact contains_corner ((normalized_ranked numeric).mpr normalized) member
  apply within_of_contains_corners
  · exact corner ⟨extent.west, extent.south⟩ ⟨numeric.west, numeric.south⟩
      (by simp [corners, ranked, Position.ranked])
  · exact corner ⟨extent.east, extent.north⟩ ⟨numeric.east, numeric.north⟩
      (by simp [corners, ranked, Position.ranked])

/-- There is one least extent, up to the signs of zeros. -/
theorem LeastAround.unique (least : extent.LeastAround points)
    (otherLeast : other.LeastAround points) : extent.Equal other := by
  have numeric := least.normalized.numeric
  have otherNumeric := otherLeast.normalized.numeric
  rw [equal_iff_ranked numeric otherNumeric]
  apply Within.antisymm
  · exact within_ranked_of_contains least.normalized otherNumeric
      (least.least other otherLeast.normalized otherLeast.contains)
  · exact within_ranked_of_contains otherLeast.normalized numeric
      (otherLeast.least extent least.normalized least.contains)

theorem LeastAround.of_mem_iff (least : extent.LeastAround points)
    {others : List (Position Float)} (same : ∀ point, point ∈ others ↔ point ∈ points) :
    extent.LeastAround others where
  normalized := least.normalized
  contains := fun point member => least.contains point ((same point).mp member)
  least := fun outer normalized contained => least.least outer normalized fun point member =>
    contained point ((same point).mpr member)

/-- Neither the order of the positions nor how often each occurs counts. -/
theorem covering_rel_of_mem_iff (numeric : ∀ point ∈ points, point.Numeric)
    {others : List (Position Float)} (same : ∀ point, point ∈ others ↔ point ∈ points) :
    Option.Rel Equal (covering others) (covering points) := by
  have otherNumeric : ∀ point ∈ others, point.Numeric := fun point member =>
    numeric point ((same point).mp member)
  have empty : covering others = none ↔ covering points = none := by
    rw [covering_eq_none_iff, covering_eq_none_iff, List.eq_nil_iff_forall_not_mem,
      List.eq_nil_iff_forall_not_mem]
    exact forall_congr' fun point => not_congr (same point)
  cases covered : covering points with
  | none =>
      rw [empty.mpr covered]
      exact .none
  | some bounds =>
      cases otherCovered : covering others with
      | none =>
          rw [empty.mp otherCovered] at covered
          cases covered
      | some otherBounds =>
          exact .some ((leastAround_of_covering otherNumeric otherCovered).unique
            ((leastAround_of_covering numeric covered).of_mem_iff same))

/-! Extents that overlap. -/

theorem ranked_sharedCorner (numeric : extent.Numeric) (otherNumeric : other.Numeric) :
    (extent.sharedCorner other).ranked = extent.ranked.sharedCorner other.ranked := by
  simp only [Position.ranked, sharedCorner, rank_greater numeric.west otherNumeric.west,
    rank_greater numeric.south otherNumeric.south]
  rfl

theorem overlaps_iff_common_position (normalized : extent.Normalized)
    (otherNormalized : other.Normalized) :
    extent.overlaps other = true ↔
      ∃ point, extent.contains point = true ∧ other.contains point = true := by
  have numeric := normalized.numeric
  have otherNumeric := otherNormalized.numeric
  rw [← overlaps_ranked numeric otherNumeric]
  constructor
  · intro overlapping
    have shared : (extent.sharedCorner other).Numeric :=
      ⟨isNaN_greater numeric.west otherNumeric.west, isNaN_greater numeric.south otherNumeric.south⟩
    refine ⟨extent.sharedCorner other, ?_, ?_⟩
    · rw [← contains_ranked numeric shared, ranked_sharedCorner numeric otherNumeric]
      exact contains_sharedCorner ((normalized_ranked numeric).mpr normalized) overlapping
    · rw [← contains_ranked otherNumeric shared, ranked_sharedCorner numeric otherNumeric,
        sharedCorner_comm]
      rw [overlaps_comm] at overlapping
      exact contains_sharedCorner ((normalized_ranked otherNumeric).mpr otherNormalized) overlapping
  · rintro ⟨point, contained, otherContained⟩
    have pointNumeric := (numeric_of_contains contained).2
    rw [← contains_ranked numeric pointNumeric] at contained
    rw [← contains_ranked otherNumeric pointNumeric] at otherContained
    exact overlaps_of_contains contained otherContained

end Extent

end ExportWatch

import ExportWatch.Proofs.Geometry.Ring

/-! When a polygon and an extent share a point, over exact fractions. -/

namespace ExportWatch

namespace Polygon

variable {polygon : Polygon ℚ} {extent : Extent ℚ} {point : Position ℚ}

/-- A point of the polygon: it is on an edge of a ring, or inside. -/
def Includes (polygon : Polygon ℚ) (point : Position ℚ) : Prop :=
  (∃ ring ∈ polygon.rings, ∃ edge ∈ ring.edges, edge.Covers point) ∨
    polygon.contains point = true

/-- Every hole is within the smallest extent around the exterior. -/
def HolesWithin (polygon : Polygon ℚ) : Prop :=
  ∀ hole ∈ polygon.holes, ∀ vertex ∈ hole,
    (Extent.covering polygon.exterior).any (·.contains vertex) = true

instance (polygon : Polygon ℚ) : Decidable polygon.HolesWithin :=
  inferInstanceAs (Decidable (∀ hole ∈ polygon.holes, ∀ vertex ∈ hole,
    (Extent.covering polygon.exterior).any (·.contains vertex) = true))

theorem contains_iff :
    polygon.contains point = true ↔
      polygon.exterior.surrounds point = true ∧
        ∀ hole ∈ polygon.holes, hole.surrounds point = false := by
  simp [contains]

/-! What the tests find is a common point. -/

theorem meetsBorder_iff {ring : Ring ℚ} :
    meetsBorder extent ring = true ↔
      ∃ edge ∈ ring.edges, ∃ side ∈ Ring.edges extent.corners, edge.meets side = true := by
  simp only [meetsBorder, List.any_eq_true]

theorem common_of_meetsBorder (normalized : extent.Normalized) {ring : Ring ℚ}
    (member : ring ∈ polygon.rings) (meeting : meetsBorder extent ring = true) :
    ∃ point, extent.contains point = true ∧ polygon.Includes point := by
  rcases meetsBorder_iff.mp meeting with ⟨edge, edgeMember, side, sideMember, meets⟩
  rcases Segment.meets_iff.mp meets with ⟨point, covered, sideCovered⟩
  exact ⟨point, Extent.contains_of_side normalized sideMember sideCovered,
    .inl ⟨ring, member, edge, edgeMember, covered⟩⟩

theorem common_of_vertex {vertex : Position ℚ} (member : vertex ∈ polygon.rings.flatten)
    (contained : extent.contains vertex = true) :
    ∃ point, extent.contains point = true ∧ polygon.Includes point := by
  rcases List.mem_flatten.mp member with ⟨ring, ringMember, vertexMember⟩
  rcases Ring.exists_edge_of_mem vertexMember with ⟨edge, edgeMember, rfl⟩
  exact ⟨edge.start, contained, .inl ⟨ring, ringMember, edge, edgeMember, edge.covers_start⟩⟩

/-! No common point is missed. A polygon is within the smallest extent around its
exterior. -/

theorem bounds_of_vertex (holesWithin : polygon.HolesWithin) {ring : Ring ℚ}
    (member : ring ∈ polygon.rings) {vertex : Position ℚ} (vertexMember : vertex ∈ ring) :
    ∃ bounds, Extent.covering polygon.exterior = some bounds ∧ bounds.contains vertex = true := by
  rcases List.mem_cons.mp member with rfl | hole
  · exact Extent.covering_of_mem vertexMember
  · exact (Option.any_eq_true _ _).mp (holesWithin ring hole vertex vertexMember)

theorem bounds_of_edge (holesWithin : polygon.HolesWithin) {ring : Ring ℚ}
    (member : ring ∈ polygon.rings) {edge : Segment ℚ} (edgeMember : edge ∈ ring.edges)
    (covered : edge.Covers point) :
    ∃ bounds, Extent.covering polygon.exterior = some bounds ∧ bounds.contains point = true := by
  rcases Ring.ends_mem_of_mem_edges edgeMember with ⟨startMember, finishMember⟩
  rcases bounds_of_vertex holesWithin member startMember with ⟨bounds, same, start⟩
  rcases bounds_of_vertex holesWithin member finishMember with ⟨others, otherSame, finish⟩
  rw [same] at otherSame
  cases otherSame
  exact ⟨bounds, same, Extent.contains_of_covers start finish covered⟩

theorem bounds_of_contains (contained : polygon.contains point = true) :
    ∃ bounds, Extent.covering polygon.exterior = some bounds ∧ bounds.contains point = true := by
  have surrounded := (contains_iff.mp contained).1
  cases exterior : polygon.exterior with
  | nil =>
      rw [exterior] at surrounded
      cases surrounded
  | cons first others =>
      rw [exterior] at surrounded
      have firstMember : first ∈ first :: others := List.mem_cons_self
      rcases Extent.covering_of_mem firstMember with ⟨bounds, covered, -⟩
      refine ⟨bounds, covered, ?_⟩
      by_contra outside
      have lost := Ring.surrounds_eq_false_of_outside
        (fun vertex member => Extent.contains_of_covering covered member)
        (Bool.eq_false_of_not_eq_true outside)
      rw [surrounded] at lost
      cases lost

theorem near_of_includes (holesWithin : polygon.HolesWithin)
    (inside : extent.contains point = true) (included : polygon.Includes point) :
    polygon.near extent = true := by
  have bounded : ∃ bounds, Extent.covering polygon.exterior = some bounds ∧
      bounds.contains point = true := by
    rcases included with ⟨ring, member, edge, edgeMember, covered⟩ | contained
    · exact bounds_of_edge holesWithin member edgeMember covered
    · exact bounds_of_contains contained
  rcases bounded with ⟨bounds, covered, contained⟩
  rw [near, covered]
  exact Extent.overlaps_of_contains contained inside

theorem meetsBorder_of_edge {ring : Ring ℚ} {edge : Segment ℚ} (edgeMember : edge ∈ ring.edges)
    (outside : extent.contains edge.start = false) (covered : edge.Covers point)
    (inside : extent.contains point = true) : meetsBorder extent ring = true := by
  rcases Extent.meets_side_of_leaves outside covered inside with ⟨side, sideMember, meets⟩
  exact meetsBorder_iff.mpr ⟨edge, edgeMember, side, sideMember, meets⟩

theorem contains_eq_of_avoids
    (avoids : ∀ ring ∈ polygon.rings, ∀ edge ∈ ring.edges, Ring.Avoids edge extent)
    {other : Position ℚ} (inside : extent.contains point = true)
    (otherInside : extent.contains other = true) :
    polygon.contains point = polygon.contains other := by
  have still : ∀ ring ∈ polygon.rings, ring.surrounds point = ring.surrounds other :=
    fun ring member => Ring.surrounds_eq_of_avoids (avoids ring member) inside otherInside
  rw [Bool.eq_iff_iff, contains_iff, contains_iff, still polygon.exterior List.mem_cons_self]
  constructor
  · rintro ⟨surrounded, free⟩
    exact ⟨surrounded, fun hole member =>
      still hole (List.mem_cons_of_mem _ member) ▸ free hole member⟩
  · rintro ⟨surrounded, free⟩
    exact ⟨surrounded, fun hole member =>
      (still hole (List.mem_cons_of_mem _ member)).trans (free hole member)⟩

theorem intersects_iff_common_point (holesWithin : polygon.HolesWithin)
    (normalized : extent.Normalized) :
    polygon.intersects extent = true ↔
      ∃ point, extent.contains point = true ∧ polygon.Includes point := by
  simp only [intersects, Bool.and_eq_true, Bool.or_eq_true, List.any_eq_true]
  constructor
  · rintro ⟨-, (⟨corner, member, contained⟩ | ⟨vertex, member, contained⟩) |
      ⟨ring, member, meeting⟩⟩
    · exact ⟨corner, Extent.contains_corner normalized member, .inr contained⟩
    · exact common_of_vertex member contained
    · exact common_of_meetsBorder normalized member meeting
  · rintro ⟨point, inside, included⟩
    refine ⟨near_of_includes holesWithin inside included, ?_⟩
    by_cases avoids : ∀ ring ∈ polygon.rings, ∀ edge ∈ ring.edges, Ring.Avoids edge extent
    · -- No edge is in the way, so any corner is as good as the point.
      left; left
      have corner : ⟨extent.west, extent.south⟩ ∈ extent.corners := List.mem_cons_self
      refine ⟨_, corner, ?_⟩
      rw [contains_eq_of_avoids avoids (Extent.contains_corner normalized corner) inside]
      rcases included with ⟨ring, member, edge, edgeMember, covered⟩ | contained
      · have outside := avoids ring member edge edgeMember point covered
        rw [inside] at outside
        cases outside
      · exact contained
    · simp only [Ring.Avoids, not_forall, Bool.not_eq_false] at avoids
      rcases avoids with ⟨ring, member, edge, edgeMember, met, covered, metInside⟩
      cases start : extent.contains edge.start with
      | true =>
          have vertex := (Ring.ends_mem_of_mem_edges edgeMember).1
          left; right
          exact ⟨edge.start, List.mem_flatten.mpr ⟨ring, member, vertex⟩, start⟩
      | false =>
          right
          exact ⟨ring, member, meetsBorder_of_edge edgeMember start covered metInside⟩

/-- An extent in a hole has no point of the polygon. -/
theorem no_common_point_in_hole :
    ¬ ∃ point, (⟨4, 4, 6, 6⟩ : Extent ℚ).contains point = true ∧
      (⟨[⟨0, 0⟩, ⟨10, 0⟩, ⟨10, 10⟩, ⟨0, 10⟩], [[⟨2, 2⟩, ⟨8, 2⟩, ⟨8, 8⟩, ⟨2, 8⟩]]⟩ :
        Polygon ℚ).Includes point := by
  intro common
  have found := (intersects_iff_common_point (by decide +kernel)
    ⟨by decide +kernel, by decide +kernel⟩).mpr common
  revert found
  decide +kernel

end Polygon

end ExportWatch

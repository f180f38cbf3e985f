import ExportWatch.Proofs.Geometry.Polygon
import ExportWatch.Proofs.Geometry.Rewriting

/-! The way a ring is written does not matter, over exact fractions: its vertices, the
points on its edges and what it surrounds stay the same, and no answer depends on
anything else. -/

namespace ExportWatch

namespace Segment

variable {segment : Segment ℚ} {point : Position ℚ}

theorem along_flip (segment : Segment ℚ) (part : ℚ) :
    segment.flip.along part = segment.along (1 - part) := by
  simp only [flip, along, Position.mk.injEq]
  constructor <;> ring

theorem Covers.flip (covered : segment.Covers point) : segment.flip.Covers point := by
  rcases covered with ⟨part, nonnegative, atMostOne, rfl⟩
  refine ⟨1 - part, sub_nonneg.mpr atMostOne, sub_le_self 1 nonnegative, ?_⟩
  rw [along_flip, sub_sub_cancel]

theorem covers_flip_iff : segment.flip.Covers point ↔ segment.Covers point :=
  ⟨fun covered => covered.flip, fun covered => covered.flip⟩

theorem eq_of_no_length {vertex : Position ℚ} (covered : (Segment.mk vertex vertex).Covers point) :
    point = vertex := by
  rcases covered with ⟨part, -, -, rfl⟩
  simp [along]

end Segment

namespace Ring

variable {ring other : Ring ℚ} {point : Position ℚ}

/-- The point is on an edge. -/
def Draws (ring : Ring ℚ) (point : Position ℚ) : Prop :=
  ∃ edge ∈ ring.edges, edge.Covers point

structure Alike (ring other : Ring ℚ) : Prop where
  mem_iff : ∀ vertex, vertex ∈ ring ↔ vertex ∈ other
  draws_iff : ∀ point, ring.Draws point ↔ other.Draws point
  surrounds_eq : ∀ point, ring.surrounds point = other.surrounds point

theorem Alike.refl (ring : Ring ℚ) : ring.Alike ring :=
  ⟨fun _ => Iff.rfl, fun _ => Iff.rfl, fun _ => rfl⟩

theorem Alike.symm (alike : ring.Alike other) : other.Alike ring :=
  ⟨fun vertex => (alike.mem_iff vertex).symm, fun point => (alike.draws_iff point).symm,
    fun point => (alike.surrounds_eq point).symm⟩

theorem Alike.trans {third : Ring ℚ} (first : ring.Alike other) (second : other.Alike third) :
    ring.Alike third :=
  ⟨fun vertex => (first.mem_iff vertex).trans (second.mem_iff vertex),
    fun point => (first.draws_iff point).trans (second.draws_iff point),
    fun point => (first.surrounds_eq point).trans (second.surrounds_eq point)⟩

/-! The number of edges that a ray passes is odd in any order of the edges. -/

theorem parity_of_perm {edges others : List (Segment ℚ)} (passes : Segment ℚ → Bool)
    (perm : edges.Perm others) (start : Bool) :
    edges.foldl (fun odd edge => odd != passes edge) start =
      others.foldl (fun odd edge => odd != passes edge) start := by
  apply perm.foldl_eq'
  intro first _ second _ odd
  cases odd <;> cases passes first <;> cases passes second <;> rfl

theorem straddles_flip (edge : Segment ℚ) (height : ℚ) :
    straddles edge.flip height = straddles edge height :=
  bne_comm

/-- Both ends of an edge lead to the same crossing. -/
theorem crossing_flip {edge : Segment ℚ} {height : ℚ} (reaches : straddles edge height = true) :
    crossing edge.flip height = crossing edge height := by
  have rise : edge.finish.lat - edge.start.lat ≠ 0 := by
    intro level
    rw [sub_eq_zero] at level
    rw [straddles, level, bne_self_eq_false] at reaches
    cases reaches
  have fall : edge.start.lat - edge.finish.lat ≠ 0 := by
    rwa [← neg_sub, neg_ne_zero]
  rw [crossing, crossing, Segment.along_flip]
  congr 1
  simp only [Segment.flip]
  field_simp
  ring

theorem rayPasses_flip (point : Position ℚ) (edge : Segment ℚ) :
    rayPasses point edge.flip = rayPasses point edge := by
  rw [rayPasses_eq, rayPasses_eq, straddles_flip]
  cases reaches : straddles edge point.lat with
  | false => rfl
  | true => rw [crossing_flip reaches]

/-! Each way to write a ring anew. -/

theorem alike_rotate (ring : Ring ℚ) (count : Nat) : ring.Alike (ring.rotate count) where
  mem_iff _ := List.mem_rotate.symm
  draws_iff point := by
    simp only [Draws, (edges_rotate_perm ring count).mem_iff]
  surrounds_eq point := parity_of_perm _ (edges_rotate_perm ring count).symm false

theorem alike_reverse (ring : Ring ℚ) : ring.Alike ring.reverse where
  mem_iff _ := List.mem_reverse.symm
  draws_iff point := by
    simp only [Draws, (edges_reverse_perm ring).mem_iff, List.mem_map,
      exists_exists_and_eq_and, Segment.covers_flip_iff]
  surrounds_eq point := by
    rw [surrounds, surrounds, parity_of_perm _ (edges_reverse_perm ring), List.foldl_map]
    simp only [rayPasses_flip]

/-- The edge without length adds no point and is not passed. -/
theorem alike_closed (first : Position ℚ) (others : List (Position ℚ)) :
    Alike (first :: others) (first :: others ++ [first]) where
  mem_iff vertex := by
    rw [List.mem_append, List.mem_singleton]
    exact ⟨.inl, fun member => member.elim id fun same => same ▸ List.mem_cons_self⟩
  draws_iff point := by
    simp only [Draws, edges_closed, List.mem_append, List.mem_singleton]
    constructor
    · rintro ⟨edge, member, covered⟩
      exact ⟨edge, .inl member, covered⟩
    · rintro ⟨edge, member | rfl, covered⟩
      · exact ⟨edge, member, covered⟩
      · rcases exists_edge_of_mem (List.mem_cons_self (a := first) (l := others)) with
          ⟨edge, member, rfl⟩
        refine ⟨edge, member, ?_⟩
        rw [Segment.eq_of_no_length covered]
        exact edge.covers_start
  surrounds_eq point := by
    have unpassed : rayPasses point ⟨first, first⟩ = false := by
      rw [rayPasses_eq, straddles, bne_self_eq_false, Bool.false_and]
    rw [surrounds, surrounds, edges_closed, List.foldl_append, List.foldl_cons, List.foldl_nil,
      unpassed, Bool.bne_false]

theorem Rewrites.alike (rewrites : Rewrites ring other) : ring.Alike other := by
  cases rewrites with
  | rotated _ count => exact alike_rotate ring count
  | reversed => exact alike_reverse ring
  | closed first others => exact alike_closed first others

theorem Same.alike (same : ring.Same other) : ring.Alike other := by
  induction same with
  | rel ring other rewrites => exact rewrites.alike
  | refl ring => exact .refl ring
  | symm ring other _ induction => exact induction.symm
  | trans ring other third _ _ first second => exact first.trans second

end Ring

namespace Polygon

/-- The holes are written in any order, and each ring in any way. -/
structure Same {Scalar : Type} (polygon other : Polygon Scalar) : Prop where
  exterior : polygon.exterior.Same other.exterior
  holes : ∃ order, polygon.holes.Perm order ∧ List.Forall₂ Ring.Same order other.holes

/-! What holds of one of some rings holds of one of their counterparts. -/

variable {rings others : List (Ring ℚ)} {polygon other : Polygon ℚ}

theorem any_eq_of_alike {answer : Ring ℚ → Bool}
    (respects : ∀ ring other, ring.Alike other → answer ring = answer other)
    (alike : List.Forall₂ Ring.Same rings others) : rings.any answer = others.any answer := by
  induction alike with
  | nil => rfl
  | cons first _ induction =>
      rw [List.any_cons, List.any_cons, respects _ _ first.alike, induction]

theorem Same.any_holes_eq (same : polygon.Same other) {answer : Ring ℚ → Bool}
    (respects : ∀ ring other, ring.Alike other → answer ring = answer other) :
    polygon.holes.any answer = other.holes.any answer := by
  rcases same.holes with ⟨order, perm, alike⟩
  rw [perm.any_eq, any_eq_of_alike respects alike]

theorem Same.any_rings_eq (same : polygon.Same other) {answer : Ring ℚ → Bool}
    (respects : ∀ ring other, ring.Alike other → answer ring = answer other) :
    polygon.rings.any answer = other.rings.any answer := by
  rw [rings, rings, List.any_cons, List.any_cons, respects _ _ same.exterior.alike,
    same.any_holes_eq respects]

theorem Same.contains_eq (same : polygon.Same other) : polygon.contains = other.contains := by
  funext point
  rw [contains, contains, same.exterior.alike.surrounds_eq point,
    same.any_holes_eq fun _ _ alike => alike.surrounds_eq point]

theorem Same.near_eq (same : polygon.Same other) : polygon.near = other.near := by
  funext extent
  rw [near, near, Extent.covering_eq_of_mem_iff same.exterior.alike.mem_iff]

theorem meetsBorder_iff_draws {extent : Extent ℚ} {ring : Ring ℚ} :
    meetsBorder extent ring = true ↔
      ∃ point, ring.Draws point ∧ ∃ side ∈ Ring.edges extent.corners, side.Covers point := by
  rw [meetsBorder_iff]
  simp only [Segment.meets_iff, Ring.Draws]
  constructor
  · rintro ⟨edge, member, side, sideMember, point, covered, sideCovered⟩
    exact ⟨point, ⟨edge, member, covered⟩, side, sideMember, sideCovered⟩
  · rintro ⟨point, ⟨edge, member, covered⟩, side, sideMember, sideCovered⟩
    exact ⟨edge, member, side, sideMember, point, covered, sideCovered⟩

theorem meetsBorder_eq_of_alike (extent : Extent ℚ) {ring other : Ring ℚ}
    (alike : ring.Alike other) : meetsBorder extent ring = meetsBorder extent other := by
  rw [Bool.eq_iff_iff, meetsBorder_iff_draws, meetsBorder_iff_draws]
  simp only [alike.draws_iff]

theorem any_vertex_eq_of_alike (extent : Extent ℚ) {ring other : Ring ℚ}
    (alike : ring.Alike other) : ring.any extent.contains = other.any extent.contains := by
  rw [Bool.eq_iff_iff, List.any_eq_true, List.any_eq_true]
  simp only [alike.mem_iff]

theorem Same.intersects_eq (same : polygon.Same other) :
    polygon.intersects = other.intersects := by
  funext extent
  rw [intersects, intersects, same.near_eq, same.contains_eq, List.any_flatten, List.any_flatten,
    same.any_rings_eq fun _ _ => any_vertex_eq_of_alike extent,
    same.any_rings_eq fun _ _ => meetsBorder_eq_of_alike extent]

theorem answers_of_same (same : polygon.Same other) (point : Position ℚ) (extent : Extent ℚ) :
    polygon.contains point = other.contains point ∧
      polygon.intersects extent = other.intersects extent :=
  ⟨congrFun same.contains_eq point, congrFun same.intersects_eq extent⟩

/-- A square with two holes. Its exterior is written backwards, from another corner and
closed; the closed hole is written open and comes first. -/
theorem answers_of_same_square :
    let square : Polygon ℚ := ⟨[⟨0, 0⟩, ⟨9, 0⟩, ⟨9, 9⟩, ⟨0, 9⟩],
      [[⟨1, 1⟩, ⟨2, 1⟩, ⟨1, 2⟩], [⟨5, 5⟩, ⟨8, 5⟩, ⟨8, 8⟩, ⟨5, 5⟩]]⟩
    let again : Polygon ℚ := ⟨[⟨9, 9⟩, ⟨9, 0⟩, ⟨0, 0⟩, ⟨0, 9⟩, ⟨9, 9⟩],
      [[⟨5, 5⟩, ⟨8, 5⟩, ⟨8, 8⟩], [⟨1, 1⟩, ⟨2, 1⟩, ⟨1, 2⟩]]⟩
    square.Same again ∧ square.contains ⟨7, 6⟩ = again.contains ⟨7, 6⟩ ∧
      square.intersects ⟨7, 6, 7, 6⟩ = again.intersects ⟨7, 6, 7, 6⟩ := by
  intro square again
  have same : square.Same again := by
    refine ⟨?_, _, .swap _ _ _, .cons ?_ (.cons (.refl _) .nil)⟩
    · exact .trans _ _ _ (.rel _ _ (.reversed _))
        (.trans _ _ _ (.rel _ _ (.rotated _ 1)) (.rel _ _ (.closed _ _)))
    · exact .symm _ _ (.rel _ _ (.closed _ _))
  exact ⟨same, answers_of_same same _ _⟩

end Polygon

end ExportWatch

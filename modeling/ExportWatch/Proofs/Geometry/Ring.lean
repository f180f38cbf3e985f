import ExportWatch.Proofs.Geometry.Border

/-! What a ring surrounds. A mark on the vertices changes along a closed ring an even
number of times. Two rays that differ on each edge as a mark changes along it pass
numbers of edges of one parity. -/

namespace ExportWatch

namespace Ring

section Edges

variable {Scalar : Type} {ring : Ring Scalar} {edge : Segment Scalar}

theorem ends_mem_of_mem_edges (member : edge ∈ ring.edges) :
    edge.start ∈ ring ∧ edge.finish ∈ ring := by
  cases ring with
  | nil => cases member
  | cons first others =>
      rw [edges, List.mem_iff_getElem] at member
      rcases member with ⟨index, bound, rfl⟩
      rw [List.getElem_zipWith]
      refine ⟨List.getElem_mem _, ?_⟩
      have turned : ∀ point ∈ others ++ [first], point ∈ first :: others := by
        intro point member
        exact (List.perm_append_singleton first others).mem_iff.mp member
      exact turned _ (List.getElem_mem _)

/-- An edge begins at every vertex. -/
theorem exists_edge_of_mem {point : Position Scalar} (member : point ∈ ring) :
    ∃ edge ∈ ring.edges, edge.start = point := by
  cases ring with
  | nil => cases member
  | cons first others =>
      rcases List.mem_iff_getElem.mp member with ⟨index, bound, rfl⟩
      have finishBound : index < (others ++ [first]).length := by
        simpa using bound
      refine ⟨⟨(first :: others)[index], (others ++ [first])[index]⟩, ?_, rfl⟩
      rw [edges, List.mem_iff_getElem]
      refine ⟨index, ?_, List.getElem_zipWith⟩
      rw [List.length_zipWith]
      exact lt_min bound finishBound

end Edges

/-! Parity along a list of edges. -/

section Parity

variable {Scalar : Type} (first second change : Segment Scalar → Bool)
variable (mark : Position Scalar → Bool)

theorem parity_differs {edges : List (Segment Scalar)} (start other : Bool)
    (differ : ∀ edge ∈ edges, (first edge != second edge) = change edge) :
    (edges.foldl (fun odd edge => odd != first edge) start !=
        edges.foldl (fun odd edge => odd != second edge) other) =
      edges.foldl (fun odd edge => odd != change edge) (start != other) := by
  induction edges generalizing start other with
  | nil => rfl
  | cons edge edges induction =>
      rw [List.foldl_cons, List.foldl_cons, List.foldl_cons,
        induction _ _ fun edge member => differ edge (List.mem_cons_of_mem _ member),
        ← differ edge List.mem_cons_self]
      congr 1
      cases start <;> cases other <;> cases first edge <;> cases second edge <;> rfl

theorem parity_of_path (start : Bool) (origin goal : Position Scalar)
    (others : List (Position Scalar)) :
    ((origin :: others).zipWith Segment.mk (others ++ [goal])).foldl
        (fun odd edge => odd != (mark edge.start != mark edge.finish)) start =
      (start != (mark origin != mark goal)) := by
  induction others generalizing start origin with
  | nil => rfl
  | cons next others induction =>
      rw [List.cons_append, List.zipWith_cons_cons, List.foldl_cons, induction]
      cases start <;> cases mark origin <;> cases mark next <;> cases mark goal <;> rfl

theorem parity_of_ring (ring : Ring Scalar) :
    ring.edges.foldl (fun odd edge => odd != (mark edge.start != mark edge.finish)) false =
      false := by
  cases ring with
  | nil => rfl
  | cons origin others =>
      rw [edges, parity_of_path]
      cases mark origin <;> rfl

end Parity

/-- Where the line of an edge is at a height. -/
def crossing (edge : Segment ℚ) (height : ℚ) : Position ℚ :=
  edge.along ((height - edge.start.lat) / (edge.finish.lat - edge.start.lat))

/-- Whether an edge reaches from a height or below to above it. -/
def straddles (edge : Segment ℚ) (height : ℚ) : Bool :=
  decide (height < edge.start.lat) != decide (height < edge.finish.lat)

section Rays

variable {ring : Ring ℚ} {edge : Segment ℚ} {point other : Position ℚ} {extent : Extent ℚ}

theorem rayPasses_eq :
    rayPasses point edge =
      (straddles edge point.lat && decide (point.lon < (crossing edge point.lat).lon)) :=
  rfl

theorem crossing_of_straddles {height : ℚ} (reaches : straddles edge height = true) :
    edge.Covers (crossing edge height) ∧ (crossing edge height).lat = height := by
  simp only [straddles, bne_iff_ne, ne_eq, decide_eq_decide] at reaches
  rcases lt_or_ge height edge.start.lat with below | above
  · have finish : edge.finish.lat ≤ height :=
      not_lt.mp fun finishAbove => reaches ⟨fun _ => finishAbove, fun _ => below⟩
    have drop : edge.finish.lat - edge.start.lat < 0 := by linarith
    refine ⟨⟨_, ?_, ?_, rfl⟩, ?_⟩
    · exact div_nonneg_of_nonpos (by linarith) drop.le
    · exact (div_le_one_of_neg drop).mpr (by linarith)
    · simp only [crossing, Segment.along, div_mul_cancel₀ _ drop.ne, add_sub_cancel]
  · have finish : height < edge.finish.lat := by
      by_contra finishBelow
      exact reaches ⟨fun startAbove => absurd startAbove (not_lt.mpr above),
        fun finishAbove => absurd finishAbove finishBelow⟩
    have rise : 0 < edge.finish.lat - edge.start.lat := by linarith
    refine ⟨⟨_, ?_, ?_, rfl⟩, ?_⟩
    · exact div_nonneg (by linarith) rise.le
    · exact (div_le_one rise).mpr (by linarith)
    · simp only [crossing, Segment.along, div_mul_cancel₀ _ rise.ne', add_sub_cancel]

theorem rayPasses_of_agrees {east : Bool}
    (agrees : straddles edge point.lat = true →
      decide (point.lon < (crossing edge point.lat).lon) = east) :
    rayPasses point edge = (straddles edge point.lat && east) := by
  rw [rayPasses_eq]
  cases reaches : straddles edge point.lat with
  | false => rfl
  | true => rw [agrees reaches]

theorem surrounds_eq_of_mark (mark : Position ℚ → Bool)
    (differ : ∀ edge ∈ ring.edges,
      (rayPasses point edge != rayPasses other edge) = (mark edge.start != mark edge.finish)) :
    ring.surrounds point = ring.surrounds other := by
  have even := parity_differs (rayPasses point) (rayPasses other) _ false false differ
  rw [bne_self_eq_false, parity_of_ring] at even
  exact bne_eq_false_iff_eq.mp even

theorem surrounds_eq_false_of_mark (mark : Position ℚ → Bool)
    (same : ∀ edge ∈ ring.edges, rayPasses point edge = (mark edge.start != mark edge.finish)) :
    ring.surrounds point = false := by
  have even := parity_differs (rayPasses point) (fun _ => false)
    (fun edge => mark edge.start != mark edge.finish) false false
    fun edge member => by rw [Bool.bne_false, same edge member]
  rw [bne_self_eq_false, parity_of_ring] at even
  have none : ring.edges.foldl (fun odd edge => odd != (fun _ => false) edge) false = false := by
    simp
  rw [none] at even
  exact bne_eq_false_iff_eq.mp even

/-! A point may move through an extent that the edges keep out of: first level, then
upright. -/

/-- The edge has no point in the extent. -/
def Avoids (edge : Segment ℚ) (extent : Extent ℚ) : Prop :=
  ∀ point, edge.Covers point → extent.contains point = false

theorem rayPasses_level (avoids : Avoids edge extent) (inside : extent.contains point = true)
    (otherInside : extent.contains other = true) (level : point.lat = other.lat) :
    rayPasses point edge = rayPasses other edge := by
  rcases Extent.contains_iff.mp inside with ⟨⟨west, east⟩, south, north⟩
  rcases Extent.contains_iff.mp otherInside with ⟨⟨otherWest, otherEast⟩, -, -⟩
  rw [rayPasses_eq, rayPasses_eq, level]
  cases reaches : straddles edge other.lat with
  | false => rfl
  | true =>
      rcases crossing_of_straddles reaches with ⟨covered, height⟩
      have missed : ¬ (extent.west ≤ (crossing edge other.lat).lon ∧
          (crossing edge other.lat).lon ≤ extent.east) := by
        intro within
        have contained := Extent.contains_iff.mpr
          ⟨within, by rw [height, ← level]; exact ⟨south, north⟩⟩
        rw [avoids _ covered] at contained
        cases contained
      rw [Bool.true_and, Bool.true_and, decide_eq_decide]
      constructor
      · intro passed
        by_contra notPassed
        exact missed ⟨by linarith, by linarith⟩
      · intro passed
        by_contra notPassed
        exact missed ⟨by linarith, by linarith⟩

/-- Between two heights an edge stays on one side of what it avoids. -/
theorem same_side (avoids : Avoids edge extent) {breadth : ℚ}
    (west : extent.west ≤ breadth) (east : breadth ≤ extent.east)
    (covered : edge.Covers point) (otherCovered : edge.Covers other)
    (within : extent.south ≤ point.lat ∧ point.lat ≤ extent.north)
    (otherWithin : extent.south ≤ other.lat ∧ other.lat ≤ extent.north)
    (passed : breadth < other.lon) : breadth < point.lon := by
  by_contra notPassed
  rcases Segment.exists_covers_lon (min_le_of_left_le (not_lt.mp notPassed))
    (le_max_of_le_right passed.le) with ⟨met, between, same⟩
  have heights := between.between.2
  have contained : extent.contains met = true :=
    Extent.contains_iff.mpr ⟨⟨same ▸ west, same ▸ east⟩,
      (le_min within.1 otherWithin.1).trans heights.1,
      heights.2.trans (max_le within.2 otherWithin.2)⟩
  rw [avoids _ (covered.trans otherCovered between)] at contained
  cases contained

theorem exists_side (avoids : Avoids edge extent) {breadth : ℚ}
    (west : extent.west ≤ breadth) (east : breadth ≤ extent.east) :
    ∃ side : Bool, ∀ met, edge.Covers met → extent.south ≤ met.lat → met.lat ≤ extent.north →
      decide (breadth < met.lon) = side := by
  by_cases passed : ∃ met, edge.Covers met ∧
    (extent.south ≤ met.lat ∧ met.lat ≤ extent.north) ∧ breadth < met.lon
  · rcases passed with ⟨reference, referenceCovered, referenceWithin, referencePassed⟩
    refine ⟨true, fun met covered low high => decide_eq_true ?_⟩
    exact same_side avoids west east covered referenceCovered ⟨low, high⟩ referenceWithin
      referencePassed
  · refine ⟨false, fun met covered low high => decide_eq_false fun metPassed => ?_⟩
    exact passed ⟨met, covered, ⟨low, high⟩, metPassed⟩

/-- The vertices that are above one height, not above another, and to the east. -/
def passedMark (lower upper breadth : ℚ) (vertex : Position ℚ) : Bool :=
  decide (lower < vertex.lat) && !decide (upper < vertex.lat) && decide (breadth < vertex.lon)

theorem passedMark_of_side {lower upper breadth : ℚ} {vertex : Position ℚ} {side : Bool}
    (agrees : lower < vertex.lat → vertex.lat ≤ upper →
      decide (breadth < vertex.lon) = side) :
    passedMark lower upper breadth vertex =
      (decide (lower < vertex.lat) && !decide (upper < vertex.lat) && side) := by
  rw [passedMark]
  by_cases low : lower < vertex.lat
  · by_cases high : upper < vertex.lat
    · simp [high]
    · rw [agrees low (not_lt.mp high)]
  · simp [low]

theorem straddles_differ (side : Bool) {startLow startHigh finishLow finishHigh : Bool}
    (startOrder : startHigh = true → startLow = true)
    (finishOrder : finishHigh = true → finishLow = true) :
    (((startLow != finishLow) && side) != ((startHigh != finishHigh) && side)) =
      ((startLow && !startHigh && side) != (finishLow && !finishHigh && side)) := by
  revert side startLow startHigh finishLow finishHigh
  decide

theorem rayPasses_upright (avoids : Avoids edge extent) (inside : extent.contains point = true)
    (otherInside : extent.contains other = true) (upright : point.lon = other.lon)
    (below : point.lat ≤ other.lat) :
    (rayPasses point edge != rayPasses other edge) =
      (passedMark point.lat other.lat other.lon edge.start !=
        passedMark point.lat other.lat other.lon edge.finish) := by
  rcases Extent.contains_iff.mp inside with ⟨-, south, north⟩
  rcases Extent.contains_iff.mp otherInside with ⟨⟨west, east⟩, otherSouth, otherNorth⟩
  rcases exists_side avoids west east with ⟨side, agrees⟩
  have pointRay : rayPasses point edge = (straddles edge point.lat && side) := by
    apply rayPasses_of_agrees
    intro reaches
    rcases crossing_of_straddles reaches with ⟨covered, height⟩
    rw [upright]
    exact agrees _ covered (south.trans_eq height.symm) (height.trans_le north)
  have otherRay : rayPasses other edge = (straddles edge other.lat && side) := by
    apply rayPasses_of_agrees
    intro reaches
    rcases crossing_of_straddles reaches with ⟨covered, height⟩
    exact agrees _ covered (otherSouth.trans_eq height.symm) (height.trans_le otherNorth)
  have marked (vertex : Position ℚ) (covered : edge.Covers vertex) :
      passedMark point.lat other.lat other.lon vertex =
        (decide (point.lat < vertex.lat) && !decide (other.lat < vertex.lat) && side) :=
    passedMark_of_side fun low high =>
      agrees vertex covered (south.trans low.le) (high.trans otherNorth)
  rw [pointRay, otherRay, marked _ edge.covers_start, marked _ edge.covers_finish]
  apply straddles_differ
  · intro above
    exact decide_eq_true (below.trans_lt (of_decide_eq_true above))
  · intro above
    exact decide_eq_true (below.trans_lt (of_decide_eq_true above))

theorem surrounds_upright (avoids : ∀ edge ∈ ring.edges, Avoids edge extent)
    (inside : extent.contains point = true) (otherInside : extent.contains other = true)
    (upright : point.lon = other.lon) (below : point.lat ≤ other.lat) :
    ring.surrounds point = ring.surrounds other :=
  surrounds_eq_of_mark (passedMark point.lat other.lat other.lon) fun edge member =>
    rayPasses_upright (avoids edge member) inside otherInside upright below

/-- A ring that stays outside an extent surrounds all of it or nothing of it. -/
theorem surrounds_eq_of_avoids (avoids : ∀ edge ∈ ring.edges, Avoids edge extent)
    (inside : extent.contains point = true) (otherInside : extent.contains other = true) :
    ring.surrounds point = ring.surrounds other := by
  have turn : extent.contains ⟨other.lon, point.lat⟩ = true := by
    rw [Extent.contains_iff] at inside otherInside ⊢
    exact ⟨otherInside.1, inside.2⟩
  have level : ring.surrounds point = ring.surrounds ⟨other.lon, point.lat⟩ :=
    surrounds_eq_of_mark (fun _ => false) fun edge member => by
      rw [rayPasses_level (avoids edge member) inside turn rfl, bne_self_eq_false,
        bne_self_eq_false]
  rw [level]
  rcases le_total point.lat other.lat with below | above
  · exact surrounds_upright avoids turn otherInside rfl below
  · exact (surrounds_upright avoids otherInside turn rfl above).symm

/-! A ring surrounds nothing outside the smallest extent around it. -/

theorem surrounds_eq_false_of_outside
    (contained : ∀ vertex ∈ ring, extent.contains vertex = true)
    (outside : extent.contains point = false) : ring.surrounds point = false := by
  have crossed : ∀ edge ∈ ring.edges, straddles edge point.lat = true →
      extent.contains (crossing edge point.lat) = true := by
    intro edge member reaches
    exact Extent.contains_of_covers (contained _ (ends_mem_of_mem_edges member).1)
      (contained _ (ends_mem_of_mem_edges member).2) (crossing_of_straddles reaches).1
  rcases lt_or_ge point.lon extent.west with left | notLeft
  · apply surrounds_eq_false_of_mark fun vertex => decide (point.lat < vertex.lat)
    intro edge member
    have passes : rayPasses point edge = (straddles edge point.lat && true) := by
      apply rayPasses_of_agrees
      intro reaches
      have within := Extent.contains_iff.mp (crossed edge member reaches)
      exact decide_eq_true (left.trans_le within.1.1)
    rw [passes, Bool.and_true, straddles]
  · apply surrounds_eq_false_of_mark fun _ => false
    intro edge member
    have passes : rayPasses point edge = (straddles edge point.lat && false) := by
      apply rayPasses_of_agrees
      intro reaches
      have within := Extent.contains_iff.mp (crossed edge member reaches)
      rw [(crossing_of_straddles reaches).2] at within
      apply decide_eq_false
      intro passed
      have contained : extent.contains point = true :=
        Extent.contains_iff.mpr ⟨⟨notLeft, passed.le.trans within.1.2⟩, within.2⟩
      rw [outside] at contained
      cases contained
    rw [passes, Bool.and_false, bne_self_eq_false]

end Rays

end Ring

end ExportWatch

import ExportWatch.Proofs.Geometry.Alike

/-! What two segments that meet have in common does not depend on which of them comes first, nor on
which of its ends a segment starts from. -/

namespace ExportWatch.Segment

variable (segment other : Segment ℚ)

theorem meets_comm : other.meets segment = segment.meets other := by
  rw [Bool.eq_iff_iff, meets_iff, meets_iff]
  exact exists_congr fun _ => and_comm

theorem flip_meets : segment.flip.meets other = segment.meets other := by
  rw [Bool.eq_iff_iff, meets_iff, meets_iff]
  exact exists_congr fun _ => and_congr_left fun _ => covers_flip_iff

theorem meets_flip : segment.meets other.flip = segment.meets other := by
  rw [← meets_comm, flip_meets, meets_comm]

/-- The test for segments that meet says whether they have a point in common. It makes no exception
for segments on one line, for those that only touch, and for those without length. -/
theorem meets_iff_common_point (p1 p2 q1 q2 : Position ℚ) :
    ((Segment.mk p1 p2).meets ⟨q1, q2⟩ = true ↔
        ∃ point, (Segment.mk p1 p2).Covers point ∧ (Segment.mk q1 q2).Covers point) ∧
      (Segment.mk q1 q2).meets ⟨p1, p2⟩ = (Segment.mk p1 p2).meets ⟨q1, q2⟩ ∧
      (Segment.mk p2 p1).meets ⟨q1, q2⟩ = (Segment.mk p1 p2).meets ⟨q1, q2⟩ ∧
      (Segment.mk p1 p2).meets ⟨q2, q1⟩ = (Segment.mk p1 p2).meets ⟨q1, q2⟩ :=
  ⟨meets_iff, meets_comm ⟨p1, p2⟩ ⟨q1, q2⟩, flip_meets ⟨p1, p2⟩ ⟨q1, q2⟩,
    meets_flip ⟨p1, p2⟩ ⟨q1, q2⟩⟩

end ExportWatch.Segment

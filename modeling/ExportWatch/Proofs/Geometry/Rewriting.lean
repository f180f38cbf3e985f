import ExportWatch.Geometry.Polygon
import Mathlib.Data.List.Rotate
import Mathlib.Logic.Relation

/-! Ways to write one ring. It may begin at another vertex, run the other way, or repeat
its first vertex at the end. The edges are the same up to their order and direction, and
an edge without length may be among them. -/

namespace ExportWatch

variable {Scalar : Type}

def Segment.flip (segment : Segment Scalar) : Segment Scalar :=
  ⟨segment.finish, segment.start⟩

namespace Ring

inductive Rewrites : Ring Scalar → Ring Scalar → Prop where
  | rotated (ring : Ring Scalar) (count : Nat) : Rewrites ring (ring.rotate count)
  | reversed (ring : Ring Scalar) : Rewrites ring ring.reverse
  | closed (first : Position Scalar) (others : List (Position Scalar)) :
      Rewrites (first :: others) (first :: others ++ [first])

/-- Any number of such changes, each in either direction. -/
def Same : Ring Scalar → Ring Scalar → Prop :=
  Relation.EqvGen Rewrites

/-- What no single change alters is the same for all ways to write a ring. -/
theorem Same.eq_of_rewrites {α : Type} {ring other : Ring Scalar} (same : ring.Same other)
    {answer : Ring Scalar → α}
    (respects : ∀ ring other, Rewrites ring other → answer ring = answer other) :
    answer ring = answer other := by
  induction same with
  | rel ring other rewrites => exact respects ring other rewrites
  | refl ring => rfl
  | symm ring other _ induction => exact induction.symm
  | trans ring other third _ _ first second => exact first.trans second

/-! Edges. -/

theorem edges_eq_zipWith (ring : Ring Scalar) :
    edges ring = ring.zipWith Segment.mk (ring.rotate 1) := by
  cases ring with
  | nil => rfl
  | cons first others => rw [edges, List.rotate_cons_succ, List.rotate_zero]

theorem edges_rotate (ring : Ring Scalar) (count : Nat) :
    edges (ring.rotate count) = (edges ring).rotate count := by
  rw [edges_eq_zipWith, edges_eq_zipWith, List.zipWith_rotate_distrib _ _ _ _ (by simp),
    List.rotate_rotate, List.rotate_rotate, Nat.add_comm]

theorem edges_rotate_perm (ring : Ring Scalar) (count : Nat) :
    (edges (ring.rotate count)).Perm (edges ring) := by
  rw [edges_rotate]
  exact List.rotate_perm _ _

/-! Backwards each edge leads from its end to its start. The last edge is still the last
when the ring begins at its second vertex. -/

theorem rotate_reverse_rotate (ring : Ring Scalar) :
    (ring.rotate 1).reverse.rotate 1 = ring.reverse := by
  cases ring with
  | nil => rfl
  | cons first others => simp

theorem edges_reverse_rotate (ring : Ring Scalar) :
    edges (ring.rotate 1).reverse = ((edges ring).map Segment.flip).reverse := by
  have flipped (starts finishes : List (Position Scalar)) :
      (starts.zipWith Segment.mk finishes).map Segment.flip =
        finishes.zipWith Segment.mk starts := by
    rw [List.map_zipWith, List.zipWith_comm]
    rfl
  rw [edges_eq_zipWith, rotate_reverse_rotate, edges_eq_zipWith, flipped,
    List.reverse_zipWith (by simp)]

theorem edges_reverse_perm (ring : Ring Scalar) :
    (edges ring.reverse).Perm ((edges ring).map Segment.flip) := by
  have turned := edges_rotate_perm (ring.rotate 1).reverse 1
  rw [rotate_reverse_rotate, edges_reverse_rotate] at turned
  exact turned.trans (List.reverse_perm _)

theorem edges_closed (first : Position Scalar) (others : List (Position Scalar)) :
    edges (first :: others ++ [first]) = edges (first :: others) ++ [⟨first, first⟩] := by
  rw [List.cons_append, edges, edges, ← List.cons_append, List.zipWith_append]
  · rfl
  · simp

end Ring

end ExportWatch

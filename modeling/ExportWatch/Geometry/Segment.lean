import ExportWatch.Geometry.Extent

/-! Closed line segments. A segment may have no length. -/

namespace ExportWatch

variable {Scalar : Type} [Sub Scalar] [Mul Scalar] [OfNat Scalar 0]
variable [LT Scalar] [LE Scalar] [DecidableLT Scalar] [DecidableLE Scalar]

structure Segment (Scalar : Type) where
  start : Position Scalar
  finish : Position Scalar
  deriving DecidableEq, Repr

namespace Segment

/-- Twice the signed area of the triangle of the segment and a point: positive
when the point is on the left, zero when it is on the line. -/
def orientation (segment : Segment Scalar) (point : Position Scalar) : Scalar :=
  (segment.finish.lon - segment.start.lon) * (point.lat - segment.start.lat) -
    (segment.finish.lat - segment.start.lat) * (point.lon - segment.start.lon)

/-- Whether a point is in the smallest extent around the segment. -/
def spans (segment : Segment Scalar) (point : Position Scalar) : Bool :=
  lesser segment.start.lon segment.finish.lon ≤ point.lon &&
    point.lon ≤ greater segment.start.lon segment.finish.lon &&
    lesser segment.start.lat segment.finish.lat ≤ point.lat &&
    point.lat ≤ greater segment.start.lat segment.finish.lat

def opposite (left right : Scalar) : Bool :=
  (0 < left && right < 0) || (left < 0 && 0 < right)

def isZero (value : Scalar) : Bool :=
  value ≤ 0 && 0 ≤ value

/-- A point on the line of a segment and in its extent is on the segment. -/
def touches (segment : Segment Scalar) (point : Position Scalar) : Bool :=
  isZero (segment.orientation point) && segment.spans point

/-! Two segments meet when each has its ends on both sides of the other, or when
an end of one is on the other. -/

def crosses (segment other : Segment Scalar) : Bool :=
  opposite (other.orientation segment.start) (other.orientation segment.finish) &&
    opposite (segment.orientation other.start) (segment.orientation other.finish)

def meets (segment other : Segment Scalar) : Bool :=
  segment.crosses other ||
    other.touches segment.start || other.touches segment.finish ||
    segment.touches other.start || segment.touches other.finish

example : (⟨⟨0, 0⟩, ⟨2, 2⟩⟩ : Segment Int).meets ⟨⟨0, 2⟩, ⟨2, 0⟩⟩ := by decide
example : (⟨⟨0, 0⟩, ⟨1, 0⟩⟩ : Segment Int).meets ⟨⟨2, 0⟩, ⟨3, 0⟩⟩ = false := by decide

end Segment

end ExportWatch

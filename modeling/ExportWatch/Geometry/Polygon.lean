import ExportWatch.Geometry.Segment

/-! Polygons with holes. A ring is a list of positions; its last edge leads back
to the first position, whether or not that position is repeated at the end. -/

namespace ExportWatch

abbrev Ring (Scalar : Type) : Type :=
  List (Position Scalar)

namespace Ring

def edges {Scalar : Type} : Ring Scalar → List (Segment Scalar)
  | [] => []
  | first :: others =>
      (first :: others).zipWith Segment.mk (others ++ [first])

variable {Scalar : Type} [Add Scalar] [Sub Scalar] [Mul Scalar] [Div Scalar]
variable [LT Scalar] [DecidableLT Scalar]

/-- A ray to the east from the point passes an edge when the edge reaches from
the point's height or below to above it, and is met east of the point. The point
is inside when the ray passes an odd number of edges. -/
def rayPasses (point : Position Scalar) (edge : Segment Scalar) : Bool :=
  decide (point.lat < edge.start.lat) != decide (point.lat < edge.finish.lat) &&
    point.lon < edge.start.lon + (point.lat - edge.start.lat) /
      (edge.finish.lat - edge.start.lat) * (edge.finish.lon - edge.start.lon)

def surrounds (ring : Ring Scalar) (point : Position Scalar) : Bool :=
  (edges ring).foldl (fun inside edge => inside != rayPasses point edge) false

end Ring

structure Polygon (Scalar : Type) where
  exterior : Ring Scalar
  holes : List (Ring Scalar)
  deriving DecidableEq, Repr

namespace Polygon

variable {Scalar : Type} [Add Scalar] [Sub Scalar] [Mul Scalar] [Div Scalar] [OfNat Scalar 0]
variable [LT Scalar] [LE Scalar] [DecidableLT Scalar] [DecidableLE Scalar]

def rings (polygon : Polygon Scalar) : List (Ring Scalar) :=
  polygon.exterior :: polygon.holes

def contains (polygon : Polygon Scalar) (point : Position Scalar) : Bool :=
  polygon.exterior.surrounds point && !polygon.holes.any (·.surrounds point)

/-! Whether a polygon and an extent share a point. A polygon that comes nowhere
near is refused at once. Otherwise a corner of the extent is in the polygon, a
vertex of the polygon is in the extent, or two edges meet. -/

def near (polygon : Polygon Scalar) (extent : Extent Scalar) : Bool :=
  match Extent.covering polygon.exterior with
  | some bounds => bounds.overlaps extent
  | none => false

def meetsBorder (extent : Extent Scalar) (ring : Ring Scalar) : Bool :=
  ring.edges.any fun edge => (Ring.edges extent.corners).any edge.meets

def intersects (polygon : Polygon Scalar) (extent : Extent Scalar) : Bool :=
  polygon.near extent &&
    (extent.corners.any polygon.contains ||
      polygon.rings.flatten.any extent.contains ||
      polygon.rings.any (meetsBorder extent))

example : (⟨[⟨0, 0⟩, ⟨10, 0⟩, ⟨10, 10⟩, ⟨0, 10⟩], []⟩ : Polygon Int).intersects
    ⟨2, 2, 3, 3⟩ := by decide
example : (⟨[⟨0, 0⟩, ⟨10, 0⟩, ⟨10, 10⟩, ⟨0, 10⟩], []⟩ : Polygon Int).intersects
    ⟨11, 11, 12, 12⟩ = false := by decide

end Polygon

/-- A permitted area is a named set of polygons. -/
structure Region (Scalar : Type) where
  name : String
  polygons : List (Polygon Scalar)
  deriving DecidableEq, Repr

namespace Region

variable {Scalar : Type} [Add Scalar] [Sub Scalar] [Mul Scalar] [Div Scalar] [OfNat Scalar 0]
variable [LT Scalar] [LE Scalar] [DecidableLT Scalar] [DecidableLE Scalar]

def intersects (region : Region Scalar) (extent : Extent Scalar) : Bool :=
  region.polygons.any (·.intersects extent)

end Region

end ExportWatch

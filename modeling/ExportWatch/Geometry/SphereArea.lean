import ExportWatch.Geometry.Polygon

/-! Areas on a sphere. A ring's area is a sum over its edges: the width of the
edge times the mean height of its ends, where height is measured by the sine of
the latitude. On an extent the sum is exact. -/

namespace ExportWatch

/-- What the sum needs to know of the sphere and of trigonometry. -/
structure Sphere (Scalar : Type) where
  radius : Scalar
  radians : Scalar → Scalar
  sine : Scalar → Scalar

namespace Sphere

variable {Scalar : Type} [Add Scalar] [Sub Scalar] [Mul Scalar] [Div Scalar]
variable [OfNat Scalar 0] [OfNat Scalar 2] [LT Scalar] [DecidableLT Scalar]

def size (value : Scalar) : Scalar :=
  if 0 < value then value else 0 - value

def height (sphere : Sphere Scalar) (point : Position Scalar) : Scalar :=
  sphere.sine (sphere.radians point.lat)

def edgeTerm (sphere : Sphere Scalar) (edge : Segment Scalar) : Scalar :=
  sphere.radians (edge.finish.lon - edge.start.lon) *
    (2 + sphere.height edge.start + sphere.height edge.finish)

def edgeSum (sphere : Sphere Scalar) (ring : Ring Scalar) : Scalar :=
  ring.edges.foldl (fun sum edge => sum + sphere.edgeTerm edge) 0

/-- In square units of the radius. Fewer than three positions enclose nothing. -/
def ringArea (sphere : Sphere Scalar) (ring : Ring Scalar) : Scalar :=
  if ring.length < 3 then 0
  else size (sphere.edgeSum ring * sphere.radius * sphere.radius / 2)

/-! The radius is in metres. -/

def ringSquareKilometres [OfNat Scalar 1000000] (sphere : Sphere Scalar) (ring : Ring Scalar) :
    Scalar :=
  sphere.ringArea ring / 1000000

def extentSquareKilometres [OfNat Scalar 1000000] (sphere : Sphere Scalar)
    (extent : Extent Scalar) : Scalar :=
  sphere.ringSquareKilometres extent.corners

end Sphere

/-! The sphere of the Web Mercator projection, in doubles. -/

namespace Earth

def radius : Float :=
  6378137.0

def pi : Float :=
  3.141592653589793

def radians (degrees : Float) : Float :=
  degrees * (pi / 180.0)

def degrees (radians : Float) : Float :=
  radians * (180.0 / pi)

def sphere : Sphere Float where
  radius := radius
  radians := radians
  sine := Float.sin

example : 180.0 / pi = 57.29577951308232 := by decide +kernel

end Earth

end ExportWatch

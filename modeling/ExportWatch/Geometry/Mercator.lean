import ExportWatch.Geometry.SphereArea

/-! The Web Mercator projection: from metres on the map to degrees. -/

namespace ExportWatch

namespace Mercator

def toPosition (x y : Float) : Position Float where
  lon := Earth.degrees (x / Earth.radius)
  lat := Earth.degrees (2.0 * (y / Earth.radius).exp.atan - Earth.pi / 2.0)

/-- The corners of an extent are taken to degrees, and put in order again. -/
def toDegrees (extent : Extent Float) : Extent Float :=
  let southWest := toPosition extent.west extent.south
  let northEast := toPosition extent.east extent.north
  .ofCorners southWest.lon southWest.lat northEast.lon northEast.lat

end Mercator

end ExportWatch

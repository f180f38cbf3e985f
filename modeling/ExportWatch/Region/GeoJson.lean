import ExportWatch.Geometry.Polygon
import ExportWatch.Json.Printer

/-! Regions and polygons in GeoJSON. A geometry is a polygon or several. Of a
feature only the geometry and the name are looked at. -/

namespace ExportWatch.GeoJson

open Json Text

inductive GeometryFault where
  | noType
  | noCoordinates
  | unsupported (kind : String)
  | notPolygons
  | notRings
  | noExterior
  | notPositions
  | notPosition
  | notNumeric
  | shortRing (count : Nat)
  deriving DecidableEq, Repr

def GeometryFault.message : GeometryFault → String
  | .noType => "geometry missing type"
  | .noCoordinates => "geometry missing coordinates"
  | .unsupported kind => "unsupported region geometry type: " ++ kind
  | .notPolygons => "MultiPolygon coordinates must be an array of polygons"
  | .notRings => "Polygon coordinates must be an array of rings"
  | .noExterior => "Polygon must have an exterior ring"
  | .notPositions => "ring must be an array of positions"
  | .notPosition => "position must be an array"
  | .notNumeric => "position must have numeric [lon, lat]"
  | .shortRing count => "ring needs at least 3 positions, got " ++ String.ofList (digitsOf count)

inductive FeatureFault where
  | notAnObject
  | noGeometry
  | geometry (fault : GeometryFault)
  deriving DecidableEq, Repr

def FeatureFault.message : FeatureFault → String
  | .notAnObject => "feature must be an object"
  | .noGeometry => "feature missing geometry"
  | .geometry fault => fault.message

inductive RegionFault where
  | notACollection
  | feature (index : Nat) (fault : FeatureFault)
  deriving DecidableEq, Repr

def RegionFault.message : RegionFault → String
  | .notACollection => "expected GeoJSON FeatureCollection"
  | .feature index fault =>
      "invalid region at index " ++ String.ofList (digitsOf index) ++ ": " ++ fault.message

def ofOption {ε α : Type} (fault : ε) : Option α → Except ε α
  | some value => .ok value
  | none => .error fault

/-- Each item of a list is read, and the first fault ends the reading. -/
def each {ε α β : Type} (read : α → Except ε β) : List α → Except ε (List β)
  | [] => .ok []
  | head :: tail => do
      let first ← read head
      let others ← each read tail
      return first :: others

/-- A position may have more numbers than two, such as a height. -/
def readPosition (value : Value) : Except GeometryFault (Position Float) := do
  let parts ← ofOption .notPosition value.items?
  match parts.map Value.float? with
  | some lon :: some lat :: _ => return ⟨lon, lat⟩
  | _ => .error .notNumeric

def readRing (value : Value) : Except GeometryFault (Ring Float) := do
  let ring ← each readPosition (← ofOption .notPositions value.items?)
  if ring.length < 3 then .error (.shortRing ring.length) else return ring

def readPolygon (value : Value) : Except GeometryFault (Polygon Float) := do
  match ← ofOption .notRings value.items? with
  | [] => .error .noExterior
  | exterior :: holes => return ⟨← readRing exterior, ← each readRing holes⟩

def readPolygons (geometry : Value) : Except GeometryFault (List (Polygon Float)) := do
  let kind ← ofOption .noType ((geometry.member? "type").bind Value.string?)
  let coordinates ← ofOption .noCoordinates (geometry.member? "coordinates")
  if kind = "Polygon" then
    return [← readPolygon coordinates]
  else if kind = "MultiPolygon" then
    each readPolygon (← ofOption .notPolygons coordinates.items?)
  else .error (.unsupported kind)

/-! The name of a feature is its name property, or else its identifier, or else
its place in the collection. -/

def identifier? : Value → Option String
  | .string text => some text
  | .number value => some (String.ofList value.text)
  | _ => none

def regionName (index : Nat) (feature : Value) : String :=
  let named := (feature.member? "properties").bind (·.member? "name")
  ((named.bind Value.string?).or ((feature.member? "id").bind identifier?)).getD
    ("region-" ++ String.ofList (digitsOf index))

def readFeature (index : Nat) (feature : Value) : Except FeatureFault (Region Float) := do
  let _ ← ofOption .notAnObject feature.members?
  let geometry ← ofOption .noGeometry (feature.member? "geometry")
  let polygons ← (readPolygons geometry).mapError .geometry
  return ⟨regionName index feature, polygons⟩

def readFeatures (index : Nat) : List Value → Except RegionFault (List (Region Float))
  | [] => .ok []
  | head :: tail => do
      let region ← (readFeature index head).mapError (.feature index)
      let regions ← readFeatures (index + 1) tail
      return region :: regions

def readRegions (value : Value) : Except RegionFault (List (Region Float)) := do
  let kind ← ofOption .notACollection ((value.member? "type").bind Value.string?)
  if kind = "FeatureCollection" then
    readFeatures 0 (← ofOption .notACollection ((value.member? "features").bind Value.items?))
  else .error .notACollection

example : (readPolygons (.object [("type", .string "Point")])).toOption = none := by decide +kernel
example : regionName 3 (.object [("id", .number (.whole 7))]) = "7" := by decide +kernel

end ExportWatch.GeoJson

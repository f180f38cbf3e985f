import ExportWatch.Decimal.Thousands
import ExportWatch.Geometry.SphereArea
import ExportWatch.Json.Printer

/-! Whether an extent can be exported: it has to share a point with a permitted
region, and its area must not be over a limit. The region is looked at first. -/

namespace ExportWatch

open Json

/-- Areas and limits are in square kilometres. -/
inductive Verdict where
  | noExtent
  | outsideRegion
  | tooLarge (area limit : Float)
  | valid (area : Float)
  deriving DecidableEq, Repr

namespace Verdict

def defaultLimit : Float :=
  2500000.0

def ofArea (area limit : Float) : Verdict :=
  if limit < area then tooLarge area limit else valid area

def ofExtent (extent : Extent Float) (regions : List (Region Float)) (limit : Float) : Verdict :=
  if regions.any (·.intersects extent) then
    ofArea (Earth.sphere.extentSquareKilometres extent) limit
  else outsideRegion

def ofExtent? (extent : Option (Extent Float)) (regions : List (Region Float)) (limit : Float) :
    Verdict :=
  match extent with
  | some extent => ofExtent extent regions limit
  | none => noExtent

def isValid : Verdict → Bool
  | valid _ => true
  | _ => false

def message : Verdict → String
  | noExtent => "Select area to export."
  | outsideRegion => "Invalid Extent. Selected area is outside a valid HOT Export Region."
  | tooLarge area limit =>
      "Invalid Extent. Selected area is " ++ Decimal.thousands area ++
        " sq km. Must be less than " ++ Decimal.thousands limit ++ " sq km."
  | valid area => "Extents are valid (" ++ Decimal.thousands area ++ " sq km)."

def members : Verdict → List (String × Value)
  | noExtent => [("verdict", .string "no_extent")]
  | outsideRegion => [("verdict", .string "outside_region")]
  | tooLarge area limit =>
      [("verdict", .string "too_large"), ("area_km2", .real area), ("max_km2", .real limit)]
  | valid area => [("verdict", .string "valid"), ("area_km2", .real area)]

end Verdict

/-- The four fields of the form that submits a job, with ten decimals. -/
structure FormFields where
  xmin : String
  ymin : String
  xmax : String
  ymax : String
  deriving DecidableEq, Repr

namespace FormFields

def place (value : Float) : String :=
  String.ofList (Decimal.fixedText 10 value)

def ofExtent (extent : Extent Float) : FormFields where
  xmin := place extent.west
  ymin := place extent.south
  xmax := place extent.east
  ymax := place extent.north

def line (fields : FormFields) : String :=
  "xmin=" ++ fields.xmin ++ " ymin=" ++ fields.ymin ++ " xmax=" ++ fields.xmax ++
    " ymax=" ++ fields.ymax

def encode (fields : FormFields) : Value :=
  .object [("xmin", .string fields.xmin), ("ymin", .string fields.ymin),
    ("xmax", .string fields.xmax), ("ymax", .string fields.ymax)]

end FormFields

namespace Verdict

def lines (verdict : Verdict) (extent : Option (Extent Float)) : List String :=
  verdict.message :: (extent.map fun extent => (FormFields.ofExtent extent).line).toList

def encode (verdict : Verdict) (extent : Option (Extent Float)) : Value :=
  .object (verdict.members ++ [("message", .string verdict.message),
    ("fields", Value.optional (fun extent => (FormFields.ofExtent extent).encode) extent)])

example : ofArea (0.0 / 0.0) 1.0 = valid (0.0 / 0.0) := by decide
example : (ofArea 2.0 1.0).isValid = false := by decide

end Verdict

end ExportWatch

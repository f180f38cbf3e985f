import ExportWatch.Decimal.Style
import ExportWatch.Decimal.Thousands
import ExportWatch.Json.Decoder
import ExportWatch.Region.GeoJson
import ExportWatch.Run.Display

/-! Export jobs: what the server knows of a job, and how it is shown. -/

namespace ExportWatch

open Json Text

structure Job where
  uid : String
  name : String
  description : String
  createdAt : Option String
  event : Option String
  area : Option Float
  published : Bool
  exportFormats : List String
  extent : Option Value
  deriving BEq, Repr

namespace Job

def encode (job : Job) : Value :=
  .object [("uid", .string job.uid), ("name", .string job.name),
    ("description", .string job.description),
    ("created_at", Value.optional .string job.createdAt),
    ("event", Value.optional .string job.event), ("area", Value.optional .real job.area),
    ("published", .bool job.published),
    ("export_formats", .array (job.exportFormats.map .string)), ("extent", job.extent.getD .null)]

def rules : List FieldRule :=
  [.of "uid" true decodeText, .of "name" true decodeText, .of "description" false decodeText,
    .of "created_at" false (decodeOptional decodeText),
    .of "event" false (decodeOptional decodeText), .of "area" false (decodeOptional decodeFloat),
    .of "published" false decodeBool, .of "export_formats" false (decodeList decodeText),
    .of "extent" false (decodeOptional decodeValue)]

def ofFields (fields : Fields) : Except Fault Job := do
  return {
    uid := ← fields.required "uid" decodeText
    name := ← fields.required "name" decodeText
    description := ← fields.optional "description" decodeText ""
    createdAt := ← fields.optional "created_at" (decodeOptional decodeText) none
    event := ← fields.optional "event" (decodeOptional decodeText) none
    area := ← fields.optional "area" (decodeOptional decodeFloat) none
    published := ← fields.optional "published" decodeBool false
    exportFormats := ← fields.optional "export_formats" (decodeList decodeText) []
    extent := ← fields.optional "extent" (decodeOptional decodeValue) none }

def decode : Decoder Job := fun node => do
  ofFields (← node.fields rules)

def encodeAll (jobs : List Job) : Value :=
  .array (jobs.map encode)

def decodeAll : Decoder (List Job) :=
  decodeList decode

/-- The smallest extent around the exterior rings of the job's geometry, if that
is a polygon or several. -/
def bounds? (job : Job) : Option (Extent Float) := do
  let polygons ← (GeoJson.readPolygons (← job.extent)).toOption
  Extent.covering (polygons.flatMap (·.exterior))

/-! Lines are left out when there is nothing to say. -/

def fourPlaces (extent : Extent Float) : List Char :=
  join ", ".toList ([extent.west, extent.south, extent.east, extent.north].map
    (Decimal.fixedText 4))

def lines (job : Job) : List String :=
  ["Job: " ++ job.name ++ " (" ++ job.uid ++ ")"] ++
    (if allBlank job.description.toList then [] else ["Description: " ++ job.description]) ++
    job.event.toList.map ("Event: " ++ ·) ++
    ["Created: " ++ timestampOrPlaceholder job.createdAt] ++
    (if job.exportFormats.isEmpty then []
      else ["Formats: " ++ ", ".intercalate job.exportFormats]) ++
    job.area.toList.map (fun area => "Area: " ++ Decimal.thousands area ++ " sq km") ++
    job.bounds?.toList.map (fun extent => "Extent: " ++ String.ofList (fourPlaces extent)) ++
    ["Published: " ++ if job.published then "yes" else "no"]

/-- One line in a list of search results. -/
def line (job : Job) : String :=
  let event :=
    match job.event with
    | some event => if allBlank event.toList then "" else " [" ++ event ++ "]"
    | none => ""
  job.uid ++ "  " ++ timestampOrPlaceholder job.createdAt ++ "  " ++ job.name ++ event

end Job

end ExportWatch

import ExportWatch.Run.Basic
import ExportWatch.Text.Pad
import ExportWatch.Time.Period
import ExportWatch.Time.Timestamp

/-! How runs and tasks are shown. Every view of a run shows its tasks alike. -/

namespace ExportWatch

open Text

def placeholder : String :=
  "--"

def timestampOrPlaceholder : Option String → String
  | some text => Timestamp.shown text
  | none => placeholder

/-- The tasks the server is known to run, what they are called here, and whether
they make a file to download. Any other task makes one and keeps its name. -/
structure TaskKind where
  label : String
  downloadable : Bool
  deriving DecidableEq, Repr

def taskKinds : List (String × TaskKind) :=
  [("OverpassQuery", ⟨"Extract OpenStreetMap Data", false⟩),
    ("OSMSchema", ⟨"Generate OpenStreetMap Schema", false⟩),
    ("KML Export", ⟨"Google Earth (KMZ) File", true⟩),
    ("OSM2PBF", ⟨"OpenStreetMap (PBF) File", true⟩),
    ("Shapefile Export", ⟨"ESRI Shapefile (SHP)", true⟩),
    ("OBF Export", ⟨"OSMAnd (OBF) File", true⟩),
    ("Garmin Export", ⟨"Garmin Map (IMG) File", true⟩),
    ("SQLITE Export", ⟨"SQLite Database File", true⟩)]

def taskKind (name : String) : TaskKind :=
  (taskKinds.lookup name).getD ⟨name, true⟩

/-- A task shows its size, duration and link only when its state has a result. -/
structure TaskDisplay where
  label : String
  link : Option String
  duration : String
  size : String
  status : RunStatus
  deriving DecidableEq, Repr

namespace TaskDisplay

/-- The status in small letters names the style of the row. -/
def styleName (display : TaskDisplay) : String :=
  String.ofList (display.status.text.toList.map toSmall)

def ofTask (task : Task) : TaskDisplay :=
  let kind := taskKind task.name
  let done := task.status.hasResult
  let result := if done then task.result else none
  let duration := if done then task.duration.bind Elapsed.span? else none
  { label := kind.label
    link := if kind.downloadable then result.bind (·.url) else none
    duration := (duration.map fun span => String.ofList span.clock).getD placeholder
    size := (result.bind (·.size)).getD placeholder
    status := task.status }

def row (display : TaskDisplay) : String :=
  let label :=
    match display.link with
    | some url => display.label ++ " <" ++ url ++ ">"
    | none => display.label
  String.ofList (' ' :: ' ' :: padRight 10 display.status.text.toList ++ ' ' ::
    padRight 14 display.duration.toList ++ ' ' :: padRight 10 display.size.toList ++ ' ' ::
    label.toList)

end TaskDisplay

namespace Run

def line (run : Run) : String :=
  let took :=
    match run.duration.bind Elapsed.span? with
    | some span => String.ofList (Period.writeSeconds span)
    | none => placeholder
  run.uid ++ "  " ++ String.ofList (padRight 9 run.status.text.toList) ++
    "  started " ++ timestampOrPlaceholder run.startedAt ++
    "  finished " ++ timestampOrPlaceholder run.finishedAt ++ "  took " ++ took

def lines (run : Run) : List String :=
  run.line :: run.tasks.map fun task => (TaskDisplay.ofTask task).row

end Run

end ExportWatch

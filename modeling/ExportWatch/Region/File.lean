import ExportWatch.Causes
import ExportWatch.Files.Basic
import ExportWatch.Json.Decoder
import ExportWatch.Region.GeoJson

/-! Regions from a file. -/

namespace ExportWatch

open Json

/-- A file that cannot be read, one that is not JSON, and one that holds no
regions. -/
inductive RegionFileFault where
  | unreadable (path : Path) (fault : FileFault)
  | notJson (path : Path)
  | noRegions (path : Path) (fault : GeoJson.RegionFault)
  deriving DecidableEq, Repr

namespace RegionFileFault

def message : RegionFileFault → String
  | unreadable path _ => "read regions file " ++ path.text
  | notJson path => "parse regions file " ++ path.text
  | noRegions path _ => "load regions from " ++ path.text

end RegionFileFault

def loadRegions (files : Files) (path : Path) : Except RegionFileFault (List (Region Float)) := do
  let text ← (files.read path).mapError (.unreadable path)
  let value ← (decodeDocument decodeValue text).mapError fun _ => .notJson path
  (GeoJson.readRegions value).mapError (.noRegions path)

end ExportWatch

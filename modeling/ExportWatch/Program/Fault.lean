import ExportWatch.History.Store
import ExportWatch.Region.File
import ExportWatch.Server.Client

/-! Why a command fails. -/

namespace ExportWatch

inductive CommandFault where
  | server (fault : ClientFault)
  | regionFile (fault : RegionFileFault)
  | history (trouble : FileTrouble)
  | watch (causes : Causes)
  | noDataDirectory
  | unfinished
  deriving DecidableEq, Repr

namespace CommandFault

def message : CommandFault → String
  | server fault => fault.message
  | regionFile fault => fault.message
  | history trouble => trouble.message
  | watch causes => causes.message
  | noDataDirectory => "no local data directory on this platform"
  | unfinished => "still following the runs"

/-- What is wrong with regions, if that is why. -/
def regionFault? : CommandFault → Option GeoJson.RegionFault
  | server (.badRegions _ fault) => some fault
  | regionFile (.noRegions _ fault) => some fault
  | _ => none

end CommandFault

end ExportWatch

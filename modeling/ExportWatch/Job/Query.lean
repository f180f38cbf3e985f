import ExportWatch.Geometry.Extent
import ExportWatch.Time.Calendar

/-! What to search jobs for. Filters that are not set let every job pass. -/

namespace ExportWatch

structure JobQuery where
  search : Option String
  user : Option String
  createdFrom : Option Date
  createdTo : Option Date
  extent : Option (Extent Float)
  deriving DecidableEq, Repr

end ExportWatch

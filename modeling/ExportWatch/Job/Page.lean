import ExportWatch.Job.Basic

/-! The page range that a server reports with search results, such as
`items 1-20/123`. -/

namespace ExportWatch

open Text

namespace PageRange

def describe? (range : List Char) : Option (List Char) := do
  let rest ← afterStart "items".toList (trim range)
  let (shown, total) ← cutAt '/' (trim rest)
  return "Displaying ".toList ++ trim shown ++ " of ".toList ++ trim total ++ " results".toList

example : describe? "items 1-20/123".toList = some "Displaying 1-20 of 123 results".toList := by
  decide
example : describe? "bytes 0-99/100".toList = none := by decide

end PageRange

end ExportWatch

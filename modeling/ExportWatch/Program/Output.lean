import ExportWatch.Json.Printer

/-! What the program shows: results, which are lines of text or JSON documents of one
line each, and notices, which go to another place than the results. -/

namespace ExportWatch

open Json

inductive ResultLine where
  | text (line : String)
  | document (value : Value)
  deriving BEq, Repr

def ResultLine.shown : ResultLine → String
  | text line => line
  | document value => value.compact

structure Output where
  results : List ResultLine
  notices : List String
  deriving BEq, Repr

namespace Output

def empty : Output where
  results := []
  notices := []

def addResult (output : Output) (line : ResultLine) : Output :=
  { output with results := output.results ++ [line] }

def addNotice (output : Output) (line : String) : Output :=
  { output with notices := output.notices ++ [line] }

/-- Every line ends with a line break. -/
def ended (lines : List String) : String :=
  String.join (lines.map (· ++ "\n"))

def resultText (output : Output) : String :=
  ended (output.results.map ResultLine.shown)

def noticeText (output : Output) : String :=
  ended output.notices

end Output

end ExportWatch

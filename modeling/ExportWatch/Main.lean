import ExportWatch.CommandLine.Usage
import ExportWatch.Program.Command

/-! The program as it is started. It has no network, so every request fails, and what
is left are the commands that look at files: checking an extent against a file of
regions, and showing the history of a job. -/

namespace ExportWatch.Main

/-! A file is put among the files as it is read. One that cannot be read is not there. -/

def load (files : Files) (path : Path) : IO Files := do
  try
    return (files.place path (← IO.FS.readFile path.text)).1
  catch _ => return files

def loadBelow (files : Files) (directory : Path) : IO Files := do
  try
    let entries ← (← IO.FS.realPath directory.text).readDir
    entries.foldlM (fun files entry => load files (directory.join entry.fileName)) files
  catch _ => load files directory

/-- What a request looks at. -/
def filesFor (surroundings : Surroundings Unit) (files : Files) : Request → IO Files
  | .validate _ _ (some path) _ => load files path
  | .history job _ =>
      match surroundings.store? with
      | some store => loadBelow files (store.jobDirectory job)
      | none => pure files
  | _ => pure files

/-- Data is kept at a place of the user's choice, or else below the home directory. -/
def dataDirectory : IO (Option Path) := do
  match (← IO.getEnv "XDG_DATA_HOME").map Path.mk, (← IO.getEnv "HOME").map Path.mk with
  | some chosen, home =>
      if chosen.isAbsolute then return some chosen else return home.map fun home => below home
  | none, home => return home.map fun home => below home
where
  below (home : Path) : Path :=
    (home.join ".local").join "share"

def perform (invocation : Invocation) : IO UInt32 := do
  let surroundings : Surroundings Unit := {
    transport := .unreachable
    dataDirectory := ← dataDirectory
    turns := 0 }
  let working := Path.names ⟨(← IO.currentDir).toString⟩
  let files ← filesFor surroundings (.empty working) invocation.request
  let (outcome, scene) := invocation.perform surroundings () files
  IO.print scene.output.resultText
  IO.eprint scene.output.noticeText
  match outcome with
  | .ok code => return code.toUInt32
  | .error fault =>
      IO.eprintln ("Error: " ++ fault.message)
      return 1

def explain (fault : CommandLine.UsageFault) : IO UInt32 := do
  if fault.isMistake then
    IO.eprintln fault.text
    return 2
  else
    IO.println fault.text
    return 0

def start (line : List String) : IO UInt32 := do
  match CommandLine.read (← IO.getEnv "HOT_EXPORTS_TOKEN") line with
  | .ok invocation => perform invocation
  | .error fault => explain fault

end ExportWatch.Main

def main (line : List String) : IO UInt32 :=
  ExportWatch.Main.start line

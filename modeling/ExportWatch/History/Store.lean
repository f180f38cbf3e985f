import ExportWatch.Causes
import ExportWatch.Files.Basic
import ExportWatch.Run.Record
import ExportWatch.Text.Percent

/-! The history of finished runs: one file for each run, in one directory for each
job. -/

namespace ExportWatch

open Json Text

/-- What was being done to which path when a fault came up. -/
inductive FileStep where
  | create
  | write
  | read
  | remove
  deriving DecidableEq, Repr

def FileStep.name : FileStep → String
  | .create => "create"
  | .write => "write"
  | .read => "read"
  | .remove => "remove"

structure FileTrouble where
  step : FileStep
  path : Path
  fault : FileFault
  deriving DecidableEq, Repr

namespace FileTrouble

def message (trouble : FileTrouble) : String :=
  trouble.step.name ++ " " ++ trouble.path.text

def causes (trouble : FileTrouble) : Causes :=
  [trouble.message, trouble.fault.message]

end FileTrouble

def during {α : Type} (step : FileStep) (path : Path) (outcome : Except FileFault α) :
    Except FileTrouble α :=
  outcome.mapError fun fault => ⟨step, path, fault⟩

/-- An operation on files leaves files behind also when it fails. -/
abbrev Outcome (α : Type) : Type :=
  Files × Except FileTrouble α

def writeFile (files : Files) (path : Path) (text : String) : Outcome Unit :=
  match files.write path text with
  | .ok written => (written, .ok ())
  | .error fault => (files, .error ⟨.write, path, fault⟩)

def writeBelow (files : Files) (directory path : Path) (text : String) : Outcome Unit :=
  match files.makeDirectories directory with
  | (made, .ok ()) => writeFile made path text
  | (made, .error fault) => (made, .error ⟨.create, directory, fault⟩)

/-! Names of files keep letters, digits, `-` and `_`; all else is written by its
bytes, so that different names stay different. -/

def keptInName (character : Char) : Bool :=
  isLetterOrDigit character || character = '-' || character = '_'

def fileStem (uid : String) : String :=
  String.ofList (percentEncode keptInName uid.toList)

def runExtension : String :=
  "json"

structure RunStore where
  root : Path
  deriving DecidableEq, Repr

namespace RunStore

def jobDirectory (store : RunStore) (job : String) : Path :=
  store.root.join (fileStem job)

def runPath (store : RunStore) (job run : String) : Path :=
  (store.jobDirectory job).join (fileStem run ++ "." ++ runExtension)

def save (store : RunStore) (job : String) (run : Run) (files : Files) : Outcome Path :=
  let path := store.runPath job run.uid
  match writeBelow files (store.jobDirectory job) path run.encode.pretty with
  | (written, .ok ()) => (written, .ok path)
  | (written, .error trouble) => (written, .error trouble)

/-! Newer runs come first, and runs without a start last. The texts of timestamps
are compared, and of equal ones the identifiers. -/

def textAtLeast : Option String → Option String → Bool
  | _, none => true
  | none, some _ => false
  | some first, some second => !(first < second)

def comesFirst (first second : Run) : Bool :=
  if first.startedAt = second.startedAt then !(first.uid < second.uid)
  else textAtLeast first.startedAt second.startedAt

structure SavedRun where
  path : Path
  run : Run
  deriving DecidableEq, Repr

/-- Files with another extension, and files that hold no run, are passed over. -/
def readRun? (files : Files) (path : Path) : Option Run := do
  let text ← (files.read path).toOption
  (decodeDocument Run.decode text).toOption

def savedRun? (files : Files) (directory : Path) (name : String) : Option SavedRun :=
  if Path.extension? name = some runExtension then
    let path := directory.join name
    (readRun? files path).map fun run => ⟨path, run⟩
  else none

def loadAll (store : RunStore) (job : String) (files : Files) :
    Except FileTrouble (List SavedRun) := do
  let directory := store.jobDirectory job
  if !files.isPresent directory then return []
  else
    let names ← during .read directory (files.list directory)
    return (names.filterMap (savedRun? files directory)).mergeSort fun first second =>
      comesFirst first.run second.run

def loadRecent (store : RunStore) (job : String) (limit : Nat) (files : Files) :
    Except FileTrouble (List Run) := do
  return ((← store.loadAll job files).take limit).map (·.run)

/-! All but the newest runs are removed. The answer is how many. -/

def removeAll (files : Files) (removed : Nat) : List Path → Outcome Nat
  | [] => (files, .ok removed)
  | head :: tail =>
      match files.remove head with
      | .ok rest => removeAll rest (removed + 1) tail
      | .error fault => (files, .error ⟨.remove, head, fault⟩)

def prune (store : RunStore) (job : String) (keep : Nat) (files : Files) : Outcome Nat :=
  match store.loadAll job files with
  | .error trouble => (files, .error trouble)
  | .ok saved => removeAll files 0 ((saved.drop keep).map (·.path))

end RunStore

/-- A list of runs as one file. -/
def exportRuns (path : Path) (runs : List Run) (files : Files) : Outcome Unit :=
  let text := (Run.encodeAll runs).pretty
  match path.parent? with
  | some directory => writeBelow files directory path text
  | none => writeFile files path text

end ExportWatch

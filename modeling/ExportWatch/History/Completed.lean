import ExportWatch.History.Store

/-! What is done with the completed runs of a job once it is no longer followed:
the newest is added to the history, and all are exported to a file. -/

namespace ExportWatch

def runsKept : Nat :=
  5

structure Processed where
  messages : List String
  saved : List Path
  deriving DecidableEq, Repr

namespace Processed

def nothing : Processed where
  messages := []
  saved := []

def append (first second : Processed) : Processed where
  messages := first.messages ++ second.messages
  saved := first.saved ++ second.saved

end Processed

/-! After each saved run the oldest ones are removed. A fault there is passed
over. -/

def saveNewest (store : RunStore) (job : String) (newest : Run) (files : Files) :
    Files × Processed :=
  match store.save job newest files with
  | (written, .ok path) =>
      ((store.prune job runsKept written).1, ⟨["Saved: " ++ path.text], [path]⟩)
  | (written, .error trouble) =>
      (written, ⟨["Save failed: " ++ Causes.text trouble.causes], []⟩)

def saveFirst (store : Option RunStore) (job : String) (runs : List Run) (files : Files) :
    Files × Processed :=
  match store, runs with
  | some store, newest :: _ => saveNewest store job newest files
  | _, _ => (files, .nothing)

def exportAll (path : Option Path) (runs : List Run) (files : Files) : Files × Processed :=
  match path with
  | none => (files, .nothing)
  | some path =>
      match exportRuns path runs files with
      | (written, .ok ()) => (written, ⟨["Exported JSON: " ++ path.text], []⟩)
      | (written, .error trouble) =>
          (written, ⟨["Export JSON failed: " ++ Causes.text trouble.causes], []⟩)

def processCompleted (store : Option RunStore) (exportPath : Option Path) (job : String)
    (runs : List Run) (files : Files) : Files × Processed :=
  let (stored, saving) := saveFirst store job runs files
  let (exported, exporting) := exportAll exportPath runs stored
  (exported, saving.append exporting)

end ExportWatch

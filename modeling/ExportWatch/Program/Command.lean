import ExportWatch.CommandLine.Arguments
import ExportWatch.Geometry.Mercator
import ExportWatch.Program.Following
import ExportWatch.Program.Search

/-! Running a command. -/

namespace ExportWatch

open Json

namespace Act

variable {State : Type}

def connect (config : Config) : Act State Client :=
  settle .server (Client.connect config.baseUrl config.token config.userAgent)

/-! Checking an extent. Regions come from a file, or else from the server, and none
are needed when there is no extent. -/

def regionsFor (surroundings : Surroundings State) (config : Config) (path : Option Path) :
    Act State (List (Region Float)) :=
  match path with
  | some path => do settle .regionFile (loadRegions (← get).files path)
  | none => do
      let client ← connect config
      ask client surroundings.transport client.regions

def showVerdict (json : Bool) (verdict : Verdict) (extent : Option (Extent Float)) :
    Act State Unit :=
  if json then document (verdict.encode extent) else printAll (verdict.lines extent)

def validate (surroundings : Surroundings State) (invocation : Invocation)
    (extent : Option (Extent Float)) (path : Option Path) (limit : Float) :
    Act State ExitCode := do
  let regions ←
    if extent.isSome then regionsFor surroundings invocation.config path else pure []
  let verdict := Verdict.ofExtent? extent regions limit
  showVerdict invocation.json verdict extent
  return if verdict.isValid then 0 else 2

/-- The history of a job is at the usual place for data. -/
def findStore (surroundings : Surroundings State) : Act State RunStore :=
  match surroundings.store? with
  | some store => pure store
  | none => throw .noDataDirectory

def showHistory (surroundings : Surroundings State) (json : Bool) (job : String) (limit : Nat) :
    Act State Unit := do
  let store ← findStore surroundings
  let runs ← settle .history (store.loadRecent job limit (← get).files)
  if runs.isEmpty && !json then notify ("No saved runs for job " ++ job ++ ".")
  else showRuns json .detail runs

/-- Without a place for data, completed runs are not saved. -/
def storeToSaveIn (surroundings : Surroundings State) (config : Config) :
    Act State (Option RunStore) :=
  match config.autoSave, surroundings.store? with
  | true, some store => pure (some store)
  | true, none => do
      notify ("Auto-save disabled: " ++ CommandFault.noDataDirectory.message)
      return none
  | false, _ => pure none

def followJob (surroundings : Surroundings State) (invocation : Invocation) (client : Client)
    (job : String) (interval : Span) (view : View) (kickoff : Watch.Kickoff) :
    Act State ExitCode := do
  let config := invocation.config
  let following : Following := {
    job := job
    timing := ⟨interval, config.startupDelay⟩
    view := view
    json := invocation.json
    store := ← storeToSaveIn surroundings config
    exportPath := config.exportPath }
  follow surroundings client following kickoff

def showLatest (surroundings : Surroundings State) (invocation : Invocation) (client : Client)
    (job : String) (view : View) : Act State (List Run) := do
  let runs ← ask client surroundings.transport (client.latestRuns job)
  showRuns invocation.json view runs
  return runs

def showJob (surroundings : Surroundings State) (invocation : Invocation) (uid : String) :
    Act State Unit := do
  let client ← connect invocation.config
  let job ← ask client surroundings.transport (client.job uid)
  if invocation.json then document job.encode else printAll job.lines

def watchList (surroundings : Surroundings State) (invocation : Invocation) (job : String)
    (follow : Bool) : Act State ExitCode := do
  let client ← connect invocation.config
  let runs ← showLatest surroundings invocation client job .list
  if follow then
    followJob surroundings invocation client job invocation.config.listInterval .list
      (.observe runs)
  else return 0

def watchNewest (surroundings : Surroundings State) (invocation : Invocation) (job : String) :
    Act State ExitCode := do
  let client ← connect invocation.config
  let runs ← showLatest surroundings invocation client job .detail
  followJob surroundings invocation client job invocation.config.pollInterval .detail
    (.observe runs)

def rerun (surroundings : Surroundings State) (invocation : Invocation) (job : String)
    (follow : Bool) : Act State ExitCode := do
  let client ← connect invocation.config
  if follow then
    followJob surroundings invocation client job invocation.config.pollInterval .detail .rerun
  else
    let run ← ask client surroundings.transport (client.rerun job)
    showRuns invocation.json .detail [run]
    return 0

def cancelAnswer (run message : String) : Value :=
  .object [("message", .string message), ("run_uid", .string run)]

def cancel (surroundings : Surroundings State) (invocation : Invocation) (run : String) :
    Act State Unit := do
  let client ← connect invocation.config
  let said ← ask client surroundings.transport (client.cancelRun run)
  let message := said.getD ("Cancel requested for run " ++ run)
  if invocation.json then document (cancelAnswer run message) else print message

def search (surroundings : Surroundings State) (invocation : Invocation) (query : JobQuery)
    (pages : Nat) : Act State Unit := do
  let client ← connect invocation.config
  searchJobs invocation.json client surroundings.transport query pages

end Act

def Invocation.act {State : Type} (invocation : Invocation)
    (surroundings : Surroundings State) : Act State ExitCode :=
  match invocation.request with
  | .validate extent mercator path limit =>
      Act.validate surroundings invocation
        (if mercator then extent.map Mercator.toDegrees else extent) path limit
  | .jobs query pages => do
      Act.search surroundings invocation query pages
      return 0
  | .job uid => do
      Act.showJob surroundings invocation uid
      return 0
  | .runs job follow => Act.watchList surroundings invocation job follow
  | .watch job => Act.watchNewest surroundings invocation job
  | .rerun job follow => Act.rerun surroundings invocation job follow
  | .cancel run => do
      Act.cancel surroundings invocation run
      return 0
  | .history job limit => do
      Act.showHistory surroundings invocation.json job limit
      return 0

def Invocation.perform {State : Type} (invocation : Invocation)
    (surroundings : Surroundings State) (server : State) (files : Files) :
    Except CommandFault ExitCode × Scene State :=
  (invocation.act surroundings).perform ⟨server, files, .empty⟩

end ExportWatch

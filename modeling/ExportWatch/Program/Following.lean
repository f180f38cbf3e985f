import ExportWatch.History.Completed
import ExportWatch.Program.Act
import ExportWatch.Run.Display
import ExportWatch.Server.Backend
import ExportWatch.Watch.Follow

/-! Following the runs of a job, and showing what happens. -/

namespace ExportWatch

open Json

/-- In a list each run is one line. In detail its tasks are shown as well. -/
inductive View where
  | list
  | detail
  deriving DecidableEq, Repr

def View.lines : View → Run → List String
  | list, run => [run.line]
  | detail, run => run.lines

namespace StopReason

def message : StopReason → String
  | terminal status => "Run finished: " ++ status.text
  | noRuns => "No runs left to follow."
  | cancelled => "Stopped following."

end StopReason

abbrev ExitCode : Type :=
  Nat

def exitCode : Option StopReason → ExitCode
  | some (.terminal .failed) => 1
  | some .cancelled => 130
  | _ => 0

/-- What a watch needs to know: on whose behalf it is, how often it looks, and what
becomes of the completed runs. -/
structure Following where
  job : String
  timing : PollTiming
  view : View
  json : Bool
  store : Option RunStore
  exportPath : Option Path
  deriving DecidableEq, Repr

/-- What a command finds around it. Someone may interrupt it during a request, and at some
moments, which are counted from where it begins to follow runs. A watch may go on for ever,
so the number of its turns is bounded. -/
structure Surroundings (State : Type) where
  transport : Transport State
  dataDirectory : Option Path
  turns : Nat
  interrupts : List Moment := []
  tickFirst : Watch.Precedence (Connection State) := fun _ => false

namespace Surroundings

variable {State : Type} (surroundings : Surroundings State)

def store? : Option RunStore :=
  surroundings.dataDirectory.map fun directory =>
    ⟨(directory.join "hot-export-cli").join "runs"⟩

/-- Whichever interrupt is taken first, one of these or one that came during a request,
asks for the polling to stop. Nothing is taken after it. -/
def coming : List (Moment × Command) :=
  surroundings.interrupts.zip (Connection.commands false surroundings.interrupts.length)

def watch (client : Client) (timing : PollTiming) (job : String) (kickoff : Watch.Kickoff)
    (server : State) : Except CommandFault (Watch.Ending (Connection State)) :=
  let begun := Watch.new timing (⟨server, false⟩ : Connection State) surroundings.coming
  match (begun.followed (Connection.backend client surroundings.transport) surroundings.tickFirst
    surroundings.turns job kickoff).ending? with
  | some ending => .ok ending
  | none => .error .unfinished

end Surroundings

namespace Act

variable {State : Type}

def showRuns (json : Bool) (view : View) (runs : List Run) : Act State Unit :=
  if json then document (Run.encodeAll runs)
  else do
    if runs.isEmpty then notify "No runs."
    printAll (runs.flatMap view.lines)

def keepCompleted (following : Following) (job : String) (runs : List Run) : Act State Unit := do
  let scene ← get
  let (files, processed) :=
    processCompleted following.store following.exportPath job runs scene.files
  set { scene with files := files }
  notifyAll processed.messages

/-! Events are results in JSON. In text only runs are, and the rest are notices. -/

def showEventText (following : Following) : WatchEvent → Act State Unit
  | .runUpdated run => printAll (following.view.lines run)
  | .completedRuns _ runs => printAll ("Completed runs:" :: runs.flatMap Run.lines)
  | _ => pure ()

def noticeEvent (following : Following) : WatchEvent → Act State Unit
  | .started job => notify ("Following runs of job " ++ job)
  | .runUpdated _ => pure ()
  | .fetchFailed message => notify ("Status check failed: " ++ message)
  | .stopped _ reason => notify reason.message
  | .completedRuns job runs => keepCompleted following job runs
  | .notice contents => notify contents.text

def showEvent (following : Following) (event : WatchEvent) : Act State Unit := do
  if following.json then document event.encode else showEventText following event
  noticeEvent following event

def follow (surroundings : Surroundings State) (client : Client) (following : Following)
    (kickoff : Watch.Kickoff) : Act State ExitCode := do
  let scene ← get
  let ending ← settle id
    (surroundings.watch client following.timing following.job kickoff scene.server)
  set { scene with server := ending.watch.state.server }
  (ending.watch.events.map Prod.snd).forM (showEvent following)
  settle .watch (ending.outcome.map exitCode)

end Act

end ExportWatch

import ExportWatch.Run.Record

/-! What a watch reports while it follows the runs of a job. -/

namespace ExportWatch

open Json

/-! A watch starts on a run that is seen to be in progress, or on one that has
just been asked for. It stops on the state of the newest run, on an empty list
of runs, or on request. -/

inductive StartReason where
  | observed
  | rerun
  deriving DecidableEq, Repr

inductive StopReason where
  | terminal (status : RunStatus)
  | noRuns
  | cancelled
  deriving DecidableEq, Repr

inductive Notice where
  | message (text : String)
  | rerunRequested (job run : String)
  deriving DecidableEq, Repr

inductive WatchEvent where
  | started (job : String)
  | runUpdated (run : Run)
  | fetchFailed (message : String)
  | stopped (job : String) (reason : StopReason)
  | completedRuns (job : String) (runs : List Run)
  | notice (contents : Notice)
  deriving DecidableEq, Repr

namespace StartReason

def named? (name : String) : Option StartReason :=
  if name = "Observed" then some observed
  else if name = "Rerun" then some rerun
  else none

def decode : Decoder StartReason :=
  decodeName named?

end StartReason

/-- In JSON a choice without contents is its name, and one with contents is an
object with the name as its only member. -/
def tagged (name : String) (contents : Value) : Value :=
  .object [(name, contents)]

namespace StopReason

def encode : StopReason → Value
  | terminal status => tagged "Terminal" status.encode
  | noRuns => .string "NoRuns"
  | cancelled => .string "Cancelled"

def plain? (name : String) : Option StopReason :=
  if name = "NoRuns" then some noRuns
  else if name = "Cancelled" then some cancelled
  else none

def decodePlain (name : String) : Except Fault StopReason :=
  match plain? name with
  | some reason => .ok reason
  | none => .error .mismatch

def decodeHolding (name : String) (node : Node) : Except Fault StopReason :=
  if name = "Terminal" then (RunStatus.decode node).map terminal
  else do
    let reason ← decodePlain name
    match node with
    | .null => return reason
    | node => .error node.unwanted

def decode : Decoder StopReason :=
  decodeVariant decodePlain decodeHolding

end StopReason

/-- Contents that are never written as a bare name. -/
def noPlain {α : Type} (_ : String) : Except Fault α :=
  .error .mismatch

namespace Notice

def text : Notice → String
  | message text => text
  | rerunRequested job run => "Requested new run " ++ run ++ " for job " ++ job

def encode : Notice → Value
  | message text => tagged "Message" (.string text)
  | rerunRequested job run =>
      tagged "RerunRequested" (.object [("job_uid", .string job), ("run_uid", .string run)])

def rerunRules : List FieldRule :=
  [.of "job_uid" true decodeText, .of "run_uid" true decodeText]

def decodeHolding (name : String) (node : Node) : Except Fault Notice :=
  if name = "Message" then (decodeText node).map message
  else if name = "RerunRequested" then do
    let fields ← node.fields rerunRules
    return rerunRequested (← fields.required "job_uid" decodeText)
      (← fields.required "run_uid" decodeText)
  else .error .mismatch

def decode : Decoder Notice :=
  decodeVariant noPlain decodeHolding

end Notice

namespace WatchEvent

def encode : WatchEvent → Value
  | started job => tagged "Started" (.object [("job_uid", .string job)])
  | runUpdated run => tagged "RunUpdated" (.object [("run", run.encode)])
  | fetchFailed message => tagged "FetchFailed" (.object [("message", .string message)])
  | stopped job reason =>
      tagged "Stopped" (.object [("job_uid", .string job), ("reason", reason.encode)])
  | completedRuns job runs =>
      tagged "CompletedRuns" (.object [("job_uid", .string job), ("runs", Run.encodeAll runs)])
  | notice contents => tagged "Info" contents.encode

def jobRule : FieldRule :=
  .of "job_uid" true decodeText

def decodeHolding (name : String) (node : Node) : Except Fault WatchEvent :=
  if name = "Started" then do
    let fields ← node.fields [jobRule]
    return started (← fields.required "job_uid" decodeText)
  else if name = "RunUpdated" then do
    let fields ← node.fields [.of "run" true Run.decode]
    return runUpdated (← fields.required "run" Run.decode)
  else if name = "FetchFailed" then do
    let fields ← node.fields [.of "message" true decodeText]
    return fetchFailed (← fields.required "message" decodeText)
  else if name = "Stopped" then do
    let fields ← node.fields [jobRule, .of "reason" true StopReason.decode]
    return stopped (← fields.required "job_uid" decodeText)
      (← fields.required "reason" StopReason.decode)
  else if name = "CompletedRuns" then do
    let fields ← node.fields [jobRule, .of "runs" true Run.decodeAll]
    return completedRuns (← fields.required "job_uid" decodeText)
      (← fields.required "runs" Run.decodeAll)
  else if name = "Info" then (Notice.decode node).map notice
  else .error .mismatch

def decode : Decoder WatchEvent :=
  decodeVariant noPlain decodeHolding

end WatchEvent

end ExportWatch

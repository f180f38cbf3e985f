import ExportWatch.Geometry.BoundingBox
import ExportWatch.Job.Basic
import ExportWatch.Job.Query
import ExportWatch.Region.GeoJson
import ExportWatch.Causes
import ExportWatch.Run.Record
import ExportWatch.Server.Exchange
import ExportWatch.Server.LinkHeader
import ExportWatch.Url.Reference

/-! Asking the server about jobs, runs and regions. A question has an address, and
says how the response is read. -/

namespace ExportWatch

open Json Text

inductive ClientFault where
  | badToken
  | badBase (text : String)
  | badPath (text : String)
  | unanswered (url : Url)
  | refused (url : Url) (status : HttpStatus)
  | unreadable (url : Url)
  | badRegions (url : Url) (fault : GeoJson.RegionFault)
  deriving DecidableEq, Repr

namespace ClientFault

def message : ClientFault → String
  | badToken => "API token contains invalid header characters"
  | badBase text => "invalid base URL: " ++ text
  | badPath text => "invalid endpoint path: " ++ text
  | unanswered url => "request to " ++ url.text ++ " failed"
  | refused url status => url.text ++ " returned HTTP " ++ status.text
  | unreadable url => "failed to decode response from " ++ url.text
  | badRegions url _ => "invalid regions from " ++ url.text

def causes : ClientFault → Causes
  | badRegions url fault => [(badRegions url fault).message, fault.message]
  | fault => [fault.message]

end ClientFault

/-- Each request carries the token, if there is one. A token goes into a header, so
it holds no control characters but tabs. -/
structure Client where
  base : Url
  userAgent : String
  authorization : Option String
  deriving DecidableEq, Repr

namespace Client

def isTokenCharacter (character : Char) : Bool :=
  (0x20 ≤ character.toNat && character.toNat ≠ 0x7F) || character = '\t'

def authorize : Option String → Except ClientFault (Option String)
  | none => .ok none
  | some token =>
      if token.toList.all isTokenCharacter then .ok (some ("Bearer " ++ token))
      else .error .badToken

def readBase (text : String) : Except ClientFault Url :=
  match Url.read? text.toList with
  | some url => .ok url.asDirectory
  | none => .error (.badBase text)

/-- The token is looked at first. -/
def connect (baseUrl : String) (token : Option String) (userAgent : String) :
    Except ClientFault Client := do
  let authorization ← authorize token
  let base ← readBase baseUrl
  return ⟨base, userAgent, authorization⟩

def request (client : Client) (url : Url) : HttpRequest where
  url := url.withoutFragment
  userAgent := client.userAgent
  authorization := client.authorization

def address (client : Client) (path : String) : Except ClientFault Url :=
  match client.base.join? path.toList with
  | some url => .ok url
  | none => .error (.badPath path)

end Client

structure Question (α : Type) where
  address : Except ClientFault Url
  read : Url → HttpResponse → Except ClientFault α

namespace Question

def readBody {α : Type} (decode : Decoder α) (url : Url) (response : HttpResponse) :
    Except ClientFault α :=
  (decodeDocument decode response.body).mapError fun _ => .unreadable url

/-- A response counts only when it is a success. -/
def readExchange {α : Type} (question : Question α) (url : Url) :
    Option HttpResponse → Except ClientFault α
  | none => .error (.unanswered url)
  | some response =>
      if response.status.isSuccess then question.read url response
      else .error (.refused url response.status)

end Question

/-- What was learned from a question, how long that took, and how often the program
was interrupted before the response was there. -/
structure Learned (α : Type) where
  outcome : Except ClientFault α
  delay : Span
  interrupts : Nat

/-- Nothing is sent when a question cannot be asked. -/
def Learned.unsent {α : Type} (fault : ClientFault) : Learned α where
  outcome := .error fault
  delay := ⟨0⟩
  interrupts := 0

namespace Client

variable {State α : Type}

/-- Only addresses of web servers can be asked. -/
def canBeAsked (url : Url) : Bool :=
  url.scheme = "http".toList || url.scheme = "https".toList

def ask (client : Client) (transport : Transport State) (question : Question α) (state : State) :
    Learned α × State :=
  match question.address with
  | .error fault => (.unsent fault, state)
  | .ok url =>
      if canBeAsked url then
        let (exchange, next) := transport (client.request url) state
        (⟨question.readExchange url exchange.response, exchange.delay, exchange.interrupts⟩, next)
      else (.unsent (.unanswered url), state)

end Client

/-- One page of search results, with links to the pages around it. -/
structure JobPage where
  jobs : List Job
  range : Option (List Char)
  next : Option Url
  previous : Option Url
  deriving BEq, Repr

namespace JobPage

/-- Links that lead nowhere are passed over, and of several the last counts. -/
def linked (url : Url) (links : List Link) (relations : List String) : Option Url :=
  ((links.filter fun link => relations.contains (String.ofList link.relation)).filterMap
    fun link => url.join? link.target).getLast?

def read (url : Url) (response : HttpResponse) : Except ClientFault JobPage := do
  let links := (response.texts "link").flatMap Link.readAll
  let jobs ← Question.readBody Job.decodeAll url response
  return {
    jobs := jobs
    range := response.firstText? "content-range"
    next := linked url links ["next"]
    previous := linked url links ["prev", "previous"] }

end JobPage

namespace JobQuery

/-! Filters that are set, as fields of a form. Empty text is no filter. -/

def textField (name : String) (value : Option String) : List (String × List Char) :=
  (value.filter (· ≠ "")).toList.map fun text => (name, text.toList)

def dateField (name : String) (value : Option Date) : List (String × List Char) :=
  value.toList.map fun date => (name, date.write)

def fields (query : JobQuery) : List (String × List Char) :=
  textField "search" query.search ++ textField "user" query.user ++
    dateField "start_date" query.createdFrom ++ dateField "end_date" query.createdTo ++
    query.extent.toList.map fun extent => ("bbox", BoundingBox.write extent)

end JobQuery

namespace Client

/-! The questions. -/

def addressWith (client : Client) (path : String) (fields : List (String × List Char)) :
    Except ClientFault Url :=
  (client.address path).map fun url => url.withFields fields

def jobsPage (url : Url) : Question JobPage where
  address := .ok url
  read := JobPage.read

def jobs (client : Client) (query : JobQuery) : Question JobPage where
  address := client.addressWith "api/jobs" query.fields
  read := JobPage.read

def job (client : Client) (uid : String) : Question Job where
  address := client.address ("api/jobs/" ++ uid)
  read := Question.readBody Job.decode

def runs (client : Client) (job : String) (status : Option RunStatus) : Question (List Run) where
  address := client.addressWith "api/runs"
    (("job_uid", job.toList) :: status.toList.map fun status => ("status", status.text.toList))
  read := Question.readBody Run.decodeAll

def latestRuns (client : Client) (job : String) : Question (List Run) :=
  client.runs job none

def completedRuns (client : Client) (job : String) : Question (List Run) :=
  client.runs job (some .completed)

def rerun (client : Client) (job : String) : Question Run where
  address := client.addressWith "api/rerun" [("job_uid", job.toList)]
  read := Question.readBody Run.decode

/-- The server may say something about the run that it was asked to stop. -/
def cancelRun (client : Client) (run : String) : Question (Option String) where
  address := client.addressWith "api/cancel_run" [("run_uid", run.toList)]
  read := fun url response => do
    let body ← Question.readBody decodeValue url response
    return (body.member? "message").bind (·.string?)

def readRegions (url : Url) (response : HttpResponse) :
    Except ClientFault (List (Region Float)) := do
  let body ← Question.readBody decodeValue url response
  (GeoJson.readRegions body).mapError (.badRegions url)

def regions (client : Client) : Question (List (Region Float)) where
  address := client.address "api/regions"
  read := readRegions

end Client

end ExportWatch

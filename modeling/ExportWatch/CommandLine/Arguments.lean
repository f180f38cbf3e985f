import ExportWatch.CommandLine.Usage
import ExportWatch.Files.Basic
import ExportWatch.Geometry.BoundingBox
import ExportWatch.History.Completed
import ExportWatch.Job.Query
import ExportWatch.Region.Verdict
import ExportWatch.Time.Period

/-! The commands of the program, their options, and the values these have when
they are not given. -/

namespace ExportWatch

open Text Decimal

namespace CommandLine

/-! Values of options. -/

inductive Setting where
  | on
  | text (value : String)
  | bool (value : Bool)
  | natural (value : Nat)
  | real (value : Float)
  | span (value : Span)
  | extent (value : Extent Float)
  | date (value : Date)
  deriving DecidableEq, Repr

def refuse {ε α : Type} (message : ε → String) (outcome : Except ε α) : Except UsageFault α :=
  outcome.mapError fun fault => .refusedValue (message fault)

def readText : ValueReader Setting := fun word =>
  .ok (.text word)

/-- A path is not empty. -/
def readPath : ValueReader Setting := fun word =>
  if word = "" then .error .badValue else .ok (.text word)

def readBool : ValueReader Setting := fun word =>
  if word = "true" then .ok (.bool true)
  else if word = "false" then .ok (.bool false)
  else .error .badValue

def readSpan : ValueReader Setting := fun word =>
  (refuse Period.Fault.message (Period.read word.toList)).map .span

/-- The period of a timer is not zero. -/
def readPeriod : ValueReader Setting := fun word => do
  let span ← refuse Period.Fault.message (Period.read word.toList)
  if span.nanoseconds = 0 then .error (.refusedValue "period must be greater than zero")
  else return .span span

def readDate : ValueReader Setting := fun word =>
  (refuse Date.Fault.message (Date.read word.toList)).map .date

def readExtent : ValueReader Setting := fun word =>
  (refuse BoundingBox.Fault.message (BoundingBox.read word.toList)).map .extent

def readReal : ValueReader Setting := fun word =>
  (refuse LiteralFault.message (readFloat word.toList)).map .real

def readCount : ValueReader Setting := fun word =>
  (refuse WholeFault.message (readNatural word64Limit word.toList)).map .natural

/-! The number of pages is at least 1. A number out of the range is shown as it
was understood. -/

def pagesLimit : Nat :=
  Nat.pow 2 32 - 1

def readPages : ValueReader Setting := fun word => do
  let value ← refuse WholeFault.message (readInteger leastInteger64 greatestInteger64 word.toList)
  if 1 ≤ value && value ≤ pagesLimit then return .natural value.toNat
  else
    .error (.refusedValue (String.ofList (wholeText value ++ " is not in 1..=".toList ++
      digitsOf pagesLimit)))

/-! The grammar. -/

def valued (name : String) (read : ValueReader Setting) : OptionRule Setting :=
  ⟨name, .on, some read, false⟩

def flag (name : String) : OptionRule Setting :=
  ⟨name, .on, none, false⟩

def box : OptionRule Setting :=
  ⟨"bbox", .on, some readExtent, true⟩

def commonOptions : List (OptionRule Setting) :=
  [valued "base-url" readText, valued "token" readText, flag "json", valued "timeout" readSpan,
    valued "poll-interval" readPeriod, valued "list-interval" readPeriod,
    valued "startup-delay" readSpan, valued "auto-save" readBool, valued "export-json" readPath]

def commands : List (CommandRule Setting) :=
  [⟨"validate", [box, flag "mercator", valued "regions" readPath, valued "max-area" readReal],
      false⟩,
    ⟨"jobs", [valued "search" readText, valued "user" readText, valued "since" readDate,
      valued "until" readDate, box, valued "pages" readPages], false⟩,
    ⟨"job", [], true⟩,
    ⟨"runs", [flag "follow"], true⟩,
    ⟨"watch", [], true⟩,
    ⟨"rerun", [flag "watch"], true⟩,
    ⟨"cancel", [], true⟩,
    ⟨"history", [valued "limit" readCount], true⟩]

def grammar : Grammar Setting where
  options := commonOptions
  commands := commands

end CommandLine

/-! What is needed to talk to a server and to follow runs. -/

structure Config where
  baseUrl : String
  token : Option String
  userAgent : String
  requestTimeout : Span
  pollInterval : Span
  listInterval : Span
  startupDelay : Span
  autoSave : Bool
  exportPath : Option Path
  deriving DecidableEq, Repr

inductive Request where
  | validate (extent : Option (Extent Float)) (mercator : Bool) (regions : Option Path)
      (limit : Float)
  | jobs (query : JobQuery) (pages : Nat)
  | job (uid : String)
  | runs (job : String) (follow : Bool)
  | watch (job : String)
  | rerun (job : String) (follow : Bool)
  | cancel (run : String)
  | history (job : String) (limit : Nat)
  deriving DecidableEq, Repr

structure Invocation where
  request : Request
  json : Bool
  config : Config
  deriving DecidableEq, Repr

namespace CommandLine

/-- Settings by kind. -/
abbrev Settings : Type :=
  List (String × Setting)

namespace Settings

def has (settings : Settings) (name : String) : Bool :=
  (settings.lookup name).isSome

def text? (settings : Settings) (name : String) : Option String :=
  match settings.lookup name with
  | some (.text value) => some value
  | _ => none

def span (settings : Settings) (name : String) (absent : Span) : Span :=
  match settings.lookup name with
  | some (.span value) => value
  | _ => absent

def natural (settings : Settings) (name : String) (absent : Nat) : Nat :=
  match settings.lookup name with
  | some (.natural value) => value
  | _ => absent

def bool (settings : Settings) (name : String) (absent : Bool) : Bool :=
  match settings.lookup name with
  | some (.bool value) => value
  | _ => absent

def real (settings : Settings) (name : String) (absent : Float) : Float :=
  match settings.lookup name with
  | some (.real value) => value
  | _ => absent

def extent? (settings : Settings) (name : String) : Option (Extent Float) :=
  match settings.lookup name with
  | some (.extent value) => some value
  | _ => none

def date? (settings : Settings) (name : String) : Option Date :=
  match settings.lookup name with
  | some (.date value) => some value
  | _ => none

end Settings

/-- The token may also come from the environment. -/
def config (token : Option String) (settings : Settings) : Config where
  baseUrl := (settings.text? "base-url").getD "http://localhost"
  token := (settings.text? "token").or token
  userAgent := "hot-export-cli/" ++ programVersion
  requestTimeout := settings.span "timeout" (.ofSeconds 30)
  pollInterval := settings.span "poll-interval" (.ofSeconds 3)
  listInterval := settings.span "list-interval" (.ofSeconds 15)
  startupDelay := settings.span "startup-delay" (.ofSeconds 2)
  autoSave := settings.bool "auto-save" true
  exportPath := (settings.text? "export-json").map Path.mk

def query (settings : Settings) : JobQuery where
  search := settings.text? "search"
  user := settings.text? "user"
  createdFrom := settings.date? "since"
  createdTo := settings.date? "until"
  extent := settings.extent? "bbox"

def request? (command argument : String) (settings : Settings) : Option Request :=
  match command with
  | "validate" =>
      some (.validate (settings.extent? "bbox") (settings.has "mercator")
        ((settings.text? "regions").map Path.mk) (settings.real "max-area" Verdict.defaultLimit))
  | "jobs" => some (.jobs (query settings) (settings.natural "pages" 1))
  | "job" => some (.job argument)
  | "runs" => some (.runs argument (settings.has "follow"))
  | "watch" => some (.watch argument)
  | "rerun" => some (.rerun argument (settings.has "watch"))
  | "cancel" => some (.cancel argument)
  | "history" => some (.history argument (settings.natural "limit" runsKept))
  | _ => none

def read (token : Option String) (line : List String) : Except UsageFault Invocation := do
  let line ← readLine grammar token.isNone line
  match request? line.command (line.argument.getD "") line.settings with
  | some request =>
      return ⟨request, Settings.has line.settings "json", config token line.settings⟩
  | none => .error .unknownCommand

end CommandLine

end ExportWatch

import ExportWatch.Decimal.Literal
import ExportWatch.Text.Blank
import ExportWatch.Time.Span

/-! Runs of an export job and the tasks of a run, as the server reports them. -/

namespace ExportWatch

open Text

inductive RunStatus where
  | pending
  | submitted
  | running
  | completed
  | failed
  deriving DecidableEq, Repr

namespace RunStatus

def all : List RunStatus :=
  [pending, submitted, running, completed, failed]

def text : RunStatus → String
  | pending => "PENDING"
  | submitted => "SUBMITTED"
  | running => "RUNNING"
  | completed => "COMPLETED"
  | failed => "FAILED"

def named? (name : String) : Option RunStatus :=
  all.find? (·.text = name)

theorem named?_text (status : RunStatus) : named? status.text = some status := by
  cases status <;> decide

/-- A run in a terminal state does not change any more. -/
def isTerminal : RunStatus → Bool
  | completed | failed => true
  | _ => false

/-- Whether a task in this state has a result worth showing. -/
def hasResult : RunStatus → Bool
  | submitted | completed => true
  | _ => false

end RunStatus

/-- Elapsed time is a number of seconds or a clock text, such as
`1 day, 2:03:04.5`. -/
inductive Elapsed where
  | seconds (value : Float)
  | text (value : String)
  deriving DecidableEq, Repr

namespace Elapsed

def floatAt? (text : List Char) : Option Float :=
  (Decimal.readFloat text).toOption

/-- Hours, minutes and seconds, of which the first may be missing. -/
def clockSeconds? (clock : List Char) : Option Float :=
  match (parts ':' clock).map floatAt? with
  | [some hours, some minutes, some rest] => some (hours * 3600.0 + minutes * 60.0 + rest)
  | [some minutes, some rest] => some (minutes * 60.0 + rest)
  | [some rest] => some rest
  | _ => none

/-! The days stand before the clock and its comma; only their first word is read. -/

def days? (text : List Char) : Option Nat :=
  (words text).head?.bind fun word => (Decimal.readNatural Decimal.word64Limit word).toOption

def splitDays (text : List Char) : Option (Nat × List Char) :=
  match cut [',', ' '] text with
  | some (before, clock) => (days? before).map fun days => (days, clock)
  | none => some (0, text)

def secondsPerDay : Nat :=
  86400

def clockSpan? (text : List Char) : Option Span := do
  let (days, clock) ← splitDays (trim text)
  let onClock ← clockSeconds? clock
  if days * secondsPerDay ≤ Decimal.word64Limit then
    Span.ofFloatSeconds? (onClock + Decimal.nearestFloat false (days * secondsPerDay) 1)
  else none

def span? : Elapsed → Option Span
  | seconds value => Span.ofFloatSeconds? value
  | text value => clockSpan? value.toList

example : (text "1 day, 2:00:00").span? = some (.ofSeconds (26 * 3600)) := by decide +kernel
example : (text "04:05").span? = some (.ofSeconds 245) := by decide +kernel
example : (text "soon").span? = none := by decide +kernel

end Elapsed

structure TaskResult where
  url : Option String
  size : Option String
  deriving DecidableEq, Repr

structure Task where
  uid : String
  name : String
  status : RunStatus
  startedAt : Option String
  finishedAt : Option String
  duration : Option Elapsed
  result : Option TaskResult
  deriving DecidableEq, Repr

structure Run where
  uid : String
  status : RunStatus
  startedAt : Option String
  finishedAt : Option String
  duration : Option Elapsed
  tasks : List Task
  deriving DecidableEq, Repr

namespace Run

def isTerminal (run : Run) : Bool :=
  run.status.isTerminal

end Run

end ExportWatch

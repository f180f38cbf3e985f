import ExportWatch.Text.Blank
import ExportWatch.Text.Cut
import ExportWatch.Decimal.Literal
import ExportWatch.Time.Span

/-! Spans of time as people write them: numbers with units, such as `1h 30m`. -/

namespace ExportWatch

namespace Period

open Text

inductive TimeUnit where
  | nanosecond
  | microsecond
  | millisecond
  | second
  | minute
  | hour
  | day
  | week
  | month
  | year
  deriving DecidableEq, Repr

/-- A month is a twelfth of a year less a little: 30.44 days, of a year of
365.25 days. -/
def TimeUnit.nanoseconds : TimeUnit → Nat
  | nanosecond => 1
  | microsecond => Nat.pow 10 3
  | millisecond => Nat.pow 10 6
  | second => Nat.pow 10 9
  | minute => 60 * Nat.pow 10 9
  | hour => 3600 * Nat.pow 10 9
  | day => 86400 * Nat.pow 10 9
  | week => 7 * 86400 * Nat.pow 10 9
  | month => 2630016 * Nat.pow 10 9
  | year => 31557600 * Nat.pow 10 9

def unitNames : List (TimeUnit × List String) :=
  [(.nanosecond, ["nanos", "nsec", "ns"]),
    (.microsecond, ["usec", "us", "µs"]),
    (.millisecond, ["millis", "msec", "ms"]),
    (.second, ["seconds", "second", "secs", "sec", "s"]),
    (.minute, ["minutes", "minute", "mins", "min", "m"]),
    (.hour, ["hours", "hour", "hrs", "hr", "h"]),
    (.day, ["days", "day", "d"]),
    (.week, ["weeks", "week", "wks", "wk", "w"]),
    (.month, ["months", "month", "M"]),
    (.year, ["years", "year", "yrs", "yr", "y"])]

def unitNamed? (name : String) : Option TimeUnit :=
  (unitNames.find? fun (_, names) => names.contains name).map (·.1)

inductive Fault where
  | empty
  | numberExpected (offset : Nat)
  | invalidCharacter (offset : Nat)
  | unitNeeded (value : Nat)
  | unknownUnit (name : String)
  | overflow
  deriving DecidableEq, Repr

def Fault.message : Fault → String
  | .empty => "value was empty"
  | .numberExpected offset => "expected number at " ++ String.ofList (digitsOf offset)
  | .invalidCharacter offset => "invalid character at " ++ String.ofList (digitsOf offset)
  | .unitNeeded value =>
      let digits := String.ofList (digitsOf value)
      "time unit needed, for example " ++ digits ++ "sec or " ++ digits ++ "ms"
  | .unknownUnit name =>
      "unknown time unit \"" ++ name ++ "\", supported units: ns, us/µs, ms, sec, min, " ++
        "hours, days, weeks, months, years (and few variations)"
  | .overflow =>
      "number is too large or cannot be represented without a lack of precision " ++
        "(values below 1ns are not supported)"

/-! All arithmetic is on 64-bit words, and what does not fit is an overflow. -/

def checked (value : Nat) : Except Fault Nat :=
  if value ≤ Decimal.word64Limit then .ok value else .error .overflow

def exactQuotient (numerator denominator : Nat) : Except Fault Nat :=
  if numerator % denominator = 0 then .ok (numerator / denominator) else .error .overflow

/-! A unit up to the millisecond is counted in nanoseconds and a longer one in
seconds; the fraction of a unit up to the minute is counted in nanoseconds. -/

def add (seconds nanoseconds : Nat) (total : Span) : Except Fault Span := do
  let _ ← checked (total.fraction + nanoseconds)
  match Span.ofNanoseconds?
      (total.nanoseconds + seconds * Span.nanosecondsPerSecond + nanoseconds) with
  | some sum => .ok sum
  | none => .error .overflow

def TimeUnit.isFine : TimeUnit → Bool
  | nanosecond | microsecond | millisecond => true
  | _ => false

def addWhole (value : Nat) (unit : TimeUnit) (total : Span) : Except Fault Span := do
  if unit.isFine then
    add 0 (← checked (value * unit.nanoseconds)) total
  else
    add (← checked (value * (unit.nanoseconds / Span.nanosecondsPerSecond))) 0 total

/-- The digits after a point, and how many there are. -/
structure Decimals where
  digits : Nat
  scale : Nat
  deriving DecidableEq, Repr

def addDecimals (decimals : Decimals) (unit : TimeUnit) (total : Span) : Except Fault Span := do
  if unit = .nanosecond then .error .overflow
  else if unit.isFine || unit = .second || unit = .minute then
    add 0 (← exactQuotient (← checked (decimals.digits * unit.nanoseconds)) decimals.scale) total
  else
    let seconds := unit.nanoseconds / Span.nanosecondsPerSecond
    add (← exactQuotient (← checked (decimals.digits * seconds)) decimals.scale) 0 total

/-- One part: a number and the name of its unit. -/
structure Part where
  value : Nat
  decimals : Option Decimals

def addPart (part : Part) (name : List Char) (total : Span) : Except Fault Span :=
  match unitNamed? (String.ofList name) with
  | none =>
      .error (if name.isEmpty then .unitNeeded part.value else .unknownUnit (String.ofList name))
  | some unit => do
      let total ← addWhole part.value unit total
      match part.decimals with
      | none => return total
      | some decimals => addDecimals decimals unit total

/-! Reading goes character by character. Blanks may stand before, in and behind
the number, and behind the unit. Offsets count bytes; `offset` is where the
next character starts. A missing number is reported where the search for it
began, and a fault among decimals where the last of them ended. -/

inductive Stage where
  | beforeNumber (first : Bool) (start : Nat)
  | inNumber (value : Nat)
  | inDecimals (value : Nat) (decimals : Decimals) (mark : Nat)
  | inUnit (part : Part) (name : List Char)

def isUnitLetter (character : Char) : Bool :=
  isLetter character || character = 'µ'

def appendDigit (value : Nat) (digit : Char) : Except Fault Nat :=
  checked (10 * value + digitValue digit)

def Decimals.append (decimals : Decimals) (digit : Char) : Except Fault Decimals := do
  let scale ← checked (10 * decimals.scale)
  return ⟨← appendDigit decimals.digits digit, scale⟩

def requireDecimals (decimals : Decimals) (mark : Nat) : Except Fault Decimals :=
  if decimals.scale = 1 then .error (.invalidCharacter mark) else .ok decimals

def readFrom (total : Span) (offset : Nat) : Stage → List Char → Except Fault Span
  | .beforeNumber first _, [] => if first then .error .empty else .ok total
  | .beforeNumber first start, head :: tail =>
      let next := offset + head.utf8Size
      if isDigit head then readFrom total next (.inNumber (digitValue head)) tail
      else if isBlank head then readFrom total next (.beforeNumber first start) tail
      else .error (.numberExpected start)
  | .inNumber value, [] => addPart ⟨value, none⟩ [] total
  | .inNumber value, head :: tail =>
      let next := offset + head.utf8Size
      if isDigit head then do
        readFrom total next (.inNumber (← appendDigit value head)) tail
      else if isBlank head then readFrom total next (.inNumber value) tail
      else if isUnitLetter head then readFrom total next (.inUnit ⟨value, none⟩ [head]) tail
      else if head = '.' then readFrom total next (.inDecimals value ⟨0, 1⟩ offset) tail
      else .error (.invalidCharacter offset)
  | .inDecimals value decimals mark, [] => do
      addPart ⟨value, some (← requireDecimals decimals mark)⟩ [] total
  | .inDecimals value decimals mark, head :: tail =>
      let next := offset + head.utf8Size
      if isDigit head then do
        readFrom total next (.inDecimals value (← decimals.append head) next) tail
      else if isBlank head then readFrom total next (.inDecimals value decimals next) tail
      else if isUnitLetter head then do
        let decimals ← requireDecimals decimals mark
        readFrom total next (.inUnit ⟨value, some decimals⟩ [head]) tail
      else .error (.invalidCharacter mark)
  | .inUnit part name, [] => addPart part name total
  | .inUnit part name, head :: tail =>
      let next := offset + head.utf8Size
      if isDigit head then do
        readFrom (← addPart part name total) next (.inNumber (digitValue head)) tail
      else if isBlank head then do
        readFrom (← addPart part name total) next (.beforeNumber false next) tail
      else if isUnitLetter head then readFrom total next (.inUnit part (name ++ [head])) tail
      else .error (.invalidCharacter offset)

/-- A lone zero needs no unit. -/
def read (text : List Char) : Except Fault Span :=
  if text = ['0'] then .ok ⟨0⟩ else readFrom ⟨0⟩ 0 (.beforeNumber true 0) text

example : (read "1h 30m".toList).toOption = some (.ofSeconds 5400) := by decide +kernel
example : (read "1.5s".toList).toOption = some (.ofMilliseconds 1500) := by decide +kernel
example : (read "1_000s".toList).toOption = none := by decide +kernel
example : (read "1s  x".toList).toBool = false ∧ (read " 1 s ".toList).toBool := by
  decide +kernel

/-! Written with the longest units first, each at most as often as it fits, and
without the units that do not occur. -/

def shownUnits : List (TimeUnit × String) :=
  [(.year, "year"), (.month, "month"), (.day, "day"), (.hour, "h"), (.minute, "m"),
    (.second, "s"), (.millisecond, "ms"), (.microsecond, "us"), (.nanosecond, "ns")]

def hasPlural (unit : TimeUnit) : Bool :=
  unit = .year || unit = .month || unit = .day

def shownPart (unit : TimeUnit) (name : String) (count : Nat) : List Char :=
  digitsOf count ++ name.toList ++ (if hasPlural unit && 1 < count then ['s'] else [])

def shownParts (rest : Nat) : List (TimeUnit × String) → List (List Char)
  | [] => []
  | (unit, name) :: tail =>
      let count := rest / unit.nanoseconds
      let others := shownParts (rest % unit.nanoseconds) tail
      if count = 0 then others else shownPart unit name count :: others

def write (span : Span) : List Char :=
  if span.nanoseconds = 0 then "0s".toList
  else join [' '] (shownParts span.nanoseconds shownUnits)

/-- Only the whole seconds. -/
def writeSeconds (span : Span) : List Char :=
  write (.ofSeconds span.seconds)

example : write (.ofMilliseconds 129601001) = "1day 12h 1s 1ms".toList := by decide +kernel
example : writeSeconds (.ofMilliseconds 400) = "0s".toList := by decide +kernel

end Period

end ExportWatch

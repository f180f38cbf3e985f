import ExportWatch.Time.Calendar

/-! Moments with an offset from universal time, as in `2015-06-01T14:04:05Z`,
and how they are shown. -/

namespace ExportWatch

open Text

structure Timestamp where
  date : Date
  hour : Nat
  minute : Nat
  second : Nat
  deriving DecidableEq, Repr

namespace Timestamp

open Calendar

def takePart (greatest : Nat) (text : List Char) : Option (Nat × List Char) := do
  let (value, rest) ← takeDigits 2 text
  if value ≤ greatest then some (value, rest) else none

def takeMark (mark : Char) : List Char → Option (List Char)
  | [] => none
  | head :: tail => if head = mark then some tail else none

/-- Any one byte may stand between the date and the time. -/
def takeSeparator : List Char → Option (List Char)
  | [] => none
  | head :: tail => if head.toNat < 128 then some tail else none

/-- The fraction of a second is read over. -/
def takeFraction : List Char → Option (List Char)
  | '.' :: text =>
      match spanDigits text with
      | ([], _) => none
      | (_ :: _, rest) => some rest
  | text => some text

/-- The offset in minutes. -/
def readOffset : List Char → Option Int
  | ['Z'] => some 0
  | ['z'] => some 0
  | sign :: text => do
      let (hours, text) ← takePart 23 text
      let text ← takeMark ':' text
      let (minutes, text) ← takePart 59 text
      if !text.isEmpty then none
      else if sign = '+' then some (hours * 60 + minutes)
      else if sign = '-' then some (-(hours * 60 + minutes : Int))
      else none
  | [] => none

/-! A sixtieth second stands only at the end of a month in universal time. It is
shown as the second before it. The minutes are counted from the start of the
given date, and an offset moves them by less than a day. -/

def isLastMinuteOfMonth (date : Date) (minutes : Int) : Bool :=
  (minutes = -1 && date.day = 1) ||
    (minutes = 1439 && date.day = daysIn date.year date.month)

def readSecond (date : Date) (minutes : Int) (second : Nat) : Option Nat :=
  if second < 60 then some second
  else if isLastMinuteOfMonth date minutes then some 59
  else none

def read? (text : List Char) : Option Timestamp := do
  let (year, text) ← takeDigits 4 text
  let text ← takeMark '-' text
  let (month, text) ← takePart 12 text
  let text ← takeMark '-' text
  let (day, text) ← takePart 31 text
  let text ← takeSeparator text
  let (hour, text) ← takePart 23 text
  let text ← takeMark ':' text
  let (minute, text) ← takePart 59 text
  let text ← takeMark ':' text
  let (second, text) ← takePart 60 text
  let offset ← readOffset (← takeFraction text)
  let date : Date := ⟨year, month, day⟩
  if !date.IsValid then none
  else
    let second ← readSecond date (hour * 60 + minute - offset) second
    return ⟨date, hour, minute, second⟩

/-! Shown on a twelve-hour clock, with the offset as it was sent. -/

def monthNames : List String :=
  ["January", "February", "March", "April", "May", "June", "July", "August", "September",
    "October", "November", "December"]

def hourOnDial (hour : Nat) : Nat :=
  if hour % 12 = 0 then 12 else hour % 12

def write (time : Timestamp) : List Char :=
  digitsOf (hourOnDial time.hour) ++ ':' :: padLeftZero 2 (digitsOf time.minute) ++ ':' ::
    padLeftZero 2 (digitsOf time.second) ++
    (if time.hour < 12 then " am, " else " pm, ").toList ++
    (monthNames.getD (time.date.month - 1) "").toList ++ ' ' :: digitsOf time.date.day ++ ' ' ::
    padLeftZero 4 (digitsOf time.date.year.natAbs)

/-- Text that is no timestamp is shown as it is. -/
def shown (text : String) : String :=
  match read? text.toList with
  | some time => String.ofList time.write
  | none => text

example : (read? "2015-06-01T14:04:05Z".toList).map write =
    some "2:04:05 pm, June 1 2015".toList := by decide +kernel
example : (read? "2017-01-01T05:29:60+05:30".toList).isSome := by decide +kernel
example : read? "2015-06-01T14:04:60Z".toList = none := by decide +kernel

end Timestamp

end ExportWatch

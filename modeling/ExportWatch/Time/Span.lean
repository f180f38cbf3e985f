import ExportWatch.Decimal.Binary
import ExportWatch.Text.Digit
import ExportWatch.Text.Pad

/-! Spans of time in whole nanoseconds. -/

namespace ExportWatch

open Text Decimal

structure Span where
  nanoseconds : Nat
  deriving DecidableEq, Repr

namespace Span

def nanosecondsPerSecond : Nat :=
  Nat.pow 10 9

def nanosecondsPerMillisecond : Nat :=
  Nat.pow 10 6

def ofSeconds (seconds : Nat) : Span :=
  ⟨seconds * nanosecondsPerSecond⟩

def ofMilliseconds (milliseconds : Nat) : Span :=
  ⟨milliseconds * nanosecondsPerMillisecond⟩

def seconds (span : Span) : Nat :=
  span.nanoseconds / nanosecondsPerSecond

def milliseconds (span : Span) : Nat :=
  span.nanoseconds / nanosecondsPerMillisecond

/-- The nanoseconds after the last whole second. -/
def fraction (span : Span) : Nat :=
  span.nanoseconds % nanosecondsPerSecond

/-- Whole seconds are counted in a 64-bit word. -/
def secondsLimit : Nat :=
  Nat.pow 2 64

def ofNanoseconds? (nanoseconds : Nat) : Option Span :=
  if nanoseconds < secondsLimit * nanosecondsPerSecond then some ⟨nanoseconds⟩ else none

/-- A number of seconds, rounded to the nearest nanosecond, ties to the even
one. A negative number is refused, and so is one that is too large or is no
number. -/
def ofFloatSeconds? (value : Float) : Option Span :=
  match Magnitude.ofFloat value with
  | .finite negative significand exponent =>
      if negative && significand != 0 then none
      else
        ofNanoseconds? (Tie.toEven.roundQuotient
          (significand * powerAbove 2 exponent * nanosecondsPerSecond) (powerBelow 2 exponent))
  | _ => none

example : ofFloatSeconds? 12.5 = some ⟨12500000000⟩ := by decide +kernel
example : ofFloatSeconds? (-1.0) = none := by decide +kernel

/-- Hours, minutes, seconds and milliseconds. What is finer is cut off. -/
def clock (span : Span) : List Char :=
  let total := span.milliseconds
  let seconds := total / 1000
  padLeftZero 2 (digitsOf (seconds / 3600)) ++ ':' ::
    padLeftZero 2 (digitsOf (seconds / 60 % 60)) ++ ':' ::
    padLeftZero 2 (digitsOf (seconds % 60)) ++ '.' :: padLeftZero 3 (digitsOf (total % 1000))

example : clock (ofMilliseconds 3723045) = "01:02:03.045".toList := by decide

end Span

end ExportWatch

import ExportWatch.Text.Cut
import ExportWatch.Text.Digit
import ExportWatch.Text.Pad

/-! Days of the Gregorian calendar. -/

namespace ExportWatch

open Text

namespace Calendar

def isLeap (year : Int) : Bool :=
  year % 4 = 0 && (year % 100 ≠ 0 || year % 400 = 0)

def monthLengths (year : Int) : List Nat :=
  [31, if isLeap year then 29 else 28, 31, 30, 31, 30, 31, 31, 30, 31, 30, 31]

def daysIn (year : Int) (month : Nat) : Nat :=
  (monthLengths year).getD (month - 1) 0

example : daysIn 1900 2 = 28 ∧ daysIn 2000 2 = 29 ∧ daysIn 2015 12 = 31 := by decide

end Calendar

structure Date where
  year : Int
  month : Nat
  day : Nat
  deriving DecidableEq, Repr

namespace Date

open Calendar

def IsValid (date : Date) : Bool :=
  1 ≤ date.month && date.month ≤ 12 && 1 ≤ date.day && date.day ≤ daysIn date.year date.month

/-- The day of the year, counted from 1. -/
def monthAndDay (month ordinal : Nat) : List Nat → Option (Nat × Nat)
  | [] => none
  | length :: others =>
      if ordinal ≤ length then some (month, ordinal)
      else monthAndDay (month + 1) (ordinal - length) others

def ofOrdinal? (year : Int) (ordinal : Nat) : Option Date :=
  if ordinal = 0 then none
  else (monthAndDay 1 ordinal (monthLengths year)).map fun (month, day) => ⟨year, month, day⟩

example : ofOrdinal? 2016 60 = some ⟨2016, 2, 29⟩ := by decide
example : ofOrdinal? 2015 366 = none := by decide

/-! Reading `YYYY-MM-DD`. The parts are read from left to right and the day is
compared with the month at the end. -/

inductive Fault where
  | component (name : String)
  | separator
  | trailing
  | day
  deriving DecidableEq, Repr

def Fault.message : Fault → String
  | .component name => "expected YYYY-MM-DD: the '" ++ name ++ "' component could not be parsed"
  | .separator => "expected YYYY-MM-DD: a character literal was not valid"
  | .trailing =>
      "expected YYYY-MM-DD: unexpected trailing characters; the end of input was expected"
  | .day => "expected YYYY-MM-DD: day was not in range"

def readYear : List Char → Option (Int × List Char)
  | '-' :: text => (takeDigits 4 text).map fun (year, rest) => (-(year : Int), rest)
  | '+' :: text => (takeDigits 4 text).map fun (year, rest) => ((year : Int), rest)
  | text => (takeDigits 4 text).map fun (year, rest) => ((year : Int), rest)

def readPart (name : String) (greatest : Nat) (text : List Char) :
    Except Fault (Nat × List Char) :=
  match takeDigits 2 text with
  | some (value, rest) =>
      if 1 ≤ value && value ≤ greatest then .ok (value, rest) else .error (.component name)
  | none => .error (.component name)

def readDash : List Char → Except Fault (List Char)
  | '-' :: text => .ok text
  | _ => .error .separator

def read (text : List Char) : Except Fault Date := do
  let (year, text) ←
    match readYear text with
    | some found => Except.ok found
    | none => .error (.component "year")
  let text ← readDash text
  let (month, text) ← readPart "month" 12 text
  let text ← readDash text
  let (day, text) ← readPart "day" 31 text
  if !text.isEmpty then .error .trailing
  else if IsValid ⟨year, month, day⟩ then return ⟨year, month, day⟩
  else .error .day

def write (date : Date) : List Char :=
  (if date.year < 0 then ['-'] else []) ++ padLeftZero 4 (digitsOf date.year.natAbs) ++ '-' ::
    padLeftZero 2 (digitsOf date.month) ++ '-' :: padLeftZero 2 (digitsOf date.day)

example : (read "2015-06-31".toList).toOption = none := by decide
example : (read "2016-02-29".toList).toOption = some ⟨2016, 2, 29⟩ := by decide
example : write ⟨2016, 2, 9⟩ = "2016-02-09".toList := by decide

end Date

end ExportWatch

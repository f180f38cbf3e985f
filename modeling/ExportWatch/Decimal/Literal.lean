import ExportWatch.Decimal.Binary
import ExportWatch.Text.Cut
import ExportWatch.Text.Digit

/-! Reading numbers that people write: decimal literals and whole numbers. A
literal has an optional sign, then digits with at most one point and at least
one digit, then an optional exponent; or it names an infinity or not-a-number in
letters of either case. -/

namespace ExportWatch.Decimal

open Text

inductive LiteralFault where
  | empty
  | malformed
  deriving DecidableEq, Repr

def LiteralFault.message : LiteralFault → String
  | empty => "cannot parse float from empty string"
  | malformed => "invalid float literal"

inductive Literal where
  | notANumber
  | infinite (negative : Bool)
  | decimal (negative : Bool) (digits : Nat) (exponent : Int)
  deriving DecidableEq, Repr

namespace Literal

def takeSign : List Char → Bool × List Char
  | '-' :: text => (true, text)
  | '+' :: text => (false, text)
  | text => (false, text)

/-- The digits after the point, if there is a point. -/
def takeFraction : List Char → List Char × List Char
  | '.' :: text => spanDigits text
  | text => ([], text)

/-! The exponent that ends a literal. -/

def exponent? : List Char → Option Int
  | [] => some 0
  | mark :: text =>
      if mark = 'e' ∨ mark = 'E' then
        let (negative, digits) := takeSign text
        if !digits.isEmpty && digits.all isDigit then
          some (if negative then -(digitsValue digits : Int) else digitsValue digits)
        else none
      else none

def decimal? (negative : Bool) (text : List Char) : Option Literal :=
  let (whole, afterWhole) := spanDigits text
  let (fraction, afterFraction) := takeFraction afterWhole
  if whole.isEmpty && fraction.isEmpty then none
  else
    (exponent? afterFraction).map fun exponent =>
      decimal negative (digitsValue (whole ++ fraction)) (exponent - fraction.length)

def named? (negative : Bool) (text : List Char) : Option Literal :=
  let name := text.map toSmall
  if name = "nan".toList then some notANumber
  else if name = "inf".toList ∨ name = "infinity".toList then some (infinite negative)
  else none

def read (text : List Char) : Except LiteralFault Literal :=
  if text.isEmpty then .error .empty
  else
    let (negative, unsigned) := takeSign text
    match (decimal? negative unsigned).orElse fun _ => named? negative unsigned with
    | some literal => .ok literal
    | none => .error .malformed

def toFloat : Literal → Float
  | notANumber => 0.0 / 0.0
  | infinite negative => if negative then -1.0 / 0.0 else 1.0 / 0.0
  | decimal negative digits exponent => decimalFloat negative digits exponent

def isFinite (literal : Literal) : Bool :=
  Decimal.isFinite literal.toFloat

end Literal

def readFloat (text : List Char) : Except LiteralFault Float :=
  (Literal.read text).map Literal.toFloat

example : Literal.read "+.5e1".toList = .ok (.decimal false 5 0) := by rfl
example : Literal.read "-INF".toList = .ok (.infinite true) := by rfl
example : Literal.read ".".toList = .error .malformed := by rfl
example : Literal.read "1e".toList = .error .malformed := by rfl

/-! Whole numbers within limits. A sign that the lower limit does not allow is
an invalid digit. -/

inductive WholeFault where
  | empty
  | invalidDigit
  | tooLarge
  | tooSmall
  deriving DecidableEq, Repr

def WholeFault.message : WholeFault → String
  | empty => "cannot parse integer from empty string"
  | invalidDigit => "invalid digit found in string"
  | tooLarge => "number too large to fit in target type"
  | tooSmall => "number too small to fit in target type"

def readDigits (text : List Char) : Except WholeFault Nat :=
  if !text.isEmpty && text.all isDigit then .ok (digitsValue text) else .error .invalidDigit

def readNatural (limit : Nat) (text : List Char) : Except WholeFault Nat :=
  if text.isEmpty then .error .empty
  else
    let digits :=
      match text with
      | '+' :: others => others
      | _ => text
    (readDigits digits).bind fun value => if value ≤ limit then .ok value else .error .tooLarge

def readInteger (least greatest : Int) (text : List Char) : Except WholeFault Int :=
  if text.isEmpty then .error .empty
  else
    let (negative, digits) := Literal.takeSign text
    (readDigits digits).bind fun size =>
      let value : Int := if negative then -(size : Int) else size
      if greatest < value then .error .tooLarge
      else if value < least then .error .tooSmall
      else .ok value

def word64Limit : Nat :=
  Nat.pow 2 64 - 1

def leastInteger64 : Int :=
  -((Nat.pow 2 63 : Nat) : Int)

def greatestInteger64 : Int :=
  ((Nat.pow 2 63 : Nat) : Int) - 1

example : readNatural 255 "+12".toList = .ok 12 := by rfl
example : readNatural 255 "-1".toList = .error .invalidDigit := by rfl
example : readNatural 255 "256".toList = .error .tooLarge := by rfl

end ExportWatch.Decimal

import ExportWatch.Decimal.Style

/-! Numbers rounded to whole ones, in groups of three digits. -/

namespace ExportWatch.Decimal

open Text

/-! The first group takes what is left over when the others have three digits. -/

def groupFrom : List Char → List Char
  | [] => []
  | head :: tail =>
      if tail.length % 3 = 0 && !tail.isEmpty then head :: ',' :: groupFrom tail
      else head :: groupFrom tail

def groupThousands (value : Nat) : List Char :=
  groupFrom (digitsOf value)

/-! A half is rounded away from zero, and what rounds to zero has no sign. -/

def thousandsFinite (negative : Bool) (significand : Nat) (exponent : Int) : List Char :=
  let whole := Tie.awayFromZero.roundQuotient
    (significand * powerAbove 2 exponent) (powerBelow 2 exponent)
  signText (negative && whole != 0) ++ groupThousands whole

def thousands (value : Float) : String :=
  String.ofList <|
    match Magnitude.ofFloat value with
    | .finite negative significand exponent => thousandsFinite negative significand exponent
    | _ => plainText value

example : groupThousands 2500000 = "2,500,000".toList := by decide
example : groupThousands 999 = "999".toList := by decide
example : (thousands (-12345.5)).toList = "-12,346".toList := by decide +kernel
example : (thousands (-0.4)).toList = "0".toList := by decide +kernel

end ExportWatch.Decimal

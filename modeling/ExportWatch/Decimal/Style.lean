import ExportWatch.Decimal.Shortest
import ExportWatch.Text.Pad

/-! How a double is written: with the fewest digits that read back, with a fixed
number of decimals, or in scientific notation. -/

namespace ExportWatch.Decimal

open Text

/-- The decisions of a format that writes the fewest digits: which exponents of
the leading digit are written with all digits in place, what marks a whole
number, whether a positive exponent shows its sign, and how ties go. -/
structure Style where
  positional : Int → Bool
  wholeMark : List Char
  exponentPlus : Bool
  tie : Tie

def signText (negative : Bool) : List Char :=
  if negative then ['-'] else []

def wholeText (value : Int) : List Char :=
  signText (decide (value < 0)) ++ digitsOf value.natAbs

example : wholeText (-7) = "-7".toList := by decide

def positionalText (wholeMark : List Char) (decimal : Scaled) : List Char :=
  let digits := digitsOf decimal.digits
  if 0 ≤ decimal.exponent then
    digits ++ List.replicate decimal.exponent.toNat '0' ++ wholeMark
  else
    let places := decimal.exponent.natAbs
    let padded := padLeftZero (places + 1) digits
    padded.take (padded.length - places) ++ '.' :: padded.drop (padded.length - places)

def exponentText (plus : Bool) (exponent : Int) : List Char :=
  'e' :: (if exponent < 0 then ['-'] else if plus then ['+'] else []) ++ digitsOf exponent.natAbs

def scientificText (plus : Bool) (decimal : Scaled) : List Char :=
  let mantissa :=
    match digitsOf decimal.digits with
    | [] => []
    | [digit] => [digit]
    | digit :: others => digit :: '.' :: others
  mantissa ++ exponentText plus decimal.leading

namespace Style

def finiteText (style : Style) (negative : Bool) (significand : Nat) (exponent : Int) :
    List Char :=
  let decimal := shortest style.tie significand exponent
  signText negative ++
    (if style.positional decimal.leading then positionalText style.wholeMark decimal
     else scientificText style.exponentPlus decimal)

end Style

def notANumberText : List Char :=
  "NaN".toList

def infinityText (negative : Bool) : List Char :=
  signText negative ++ "inf".toList

/-- Every digit in place, whatever the size, and no mark on whole numbers. -/
def plainStyle : Style where
  positional := fun _ => true
  wholeMark := []
  exponentPlus := false
  tie := .awayFromZero

def plainText (value : Float) : List Char :=
  match Magnitude.ofFloat value with
  | .notANumber => notANumberText
  | .infinite negative => infinityText negative
  | .finite negative significand exponent => plainStyle.finiteText negative significand exponent

example : plainText 0.00001 = "0.00001".toList := by decide +kernel
example : plainText (-0.0) = "-0".toList := by decide +kernel
example : plainText 1e21 = "1000000000000000000000".toList := by decide +kernel

/-! A fixed number of decimals: the exact value is rounded once, and a half goes
to the even neighbour. The sign stays on a value that rounds to zero. -/

def fixedFinite (places : Nat) (negative : Bool) (significand : Nat) (exponent : Int) :
    List Char :=
  let units := Tie.toEven.roundQuotient
    (significand * powerAbove 2 exponent * Nat.pow 10 places) (powerBelow 2 exponent)
  signText negative ++
    (if places = 0 then digitsOf units else positionalText [] ⟨units, -(places : Int)⟩)

def fixedText (places : Nat) (value : Float) : List Char :=
  match Magnitude.ofFloat value with
  | .notANumber => notANumberText
  | .infinite negative => infinityText negative
  | .finite negative significand exponent => fixedFinite places negative significand exponent

example : fixedText 4 (-1e-5) = "-0.0000".toList := by decide +kernel
example : fixedText 1 0.25 = "0.2".toList := by decide +kernel

/-! One digit before the point and a fixed number after it. Rounding may carry
into a further digit, which then becomes the leading one. -/

def scientificFinite (places : Nat) (negative : Bool) (significand : Nat) (exponent : Int) :
    List Char :=
  if significand = 0 then
    signText negative ++ positionalText [] ⟨0, -(places : Int)⟩ ++ exponentText false 0
  else
    let leading := leadingExponent significand exponent
    let place := leading - places
    let units := Tie.toEven.roundQuotient
      (significand * powerAbove 2 exponent * powerBelow 10 place)
      (powerBelow 2 exponent * powerAbove 10 place)
    let carried := Nat.pow 10 (places + 1) ≤ units
    signText negative ++
      positionalText [] ⟨if carried then units / 10 else units, -(places : Int)⟩ ++
      exponentText false (if carried then leading + 1 else leading)

def scientificFloat (places : Nat) (value : Float) : List Char :=
  match Magnitude.ofFloat value with
  | .notANumber => notANumberText
  | .infinite negative => infinityText negative
  | .finite negative significand exponent =>
      scientificFinite places negative significand exponent

example : scientificFloat 8 6.378137e300 = "6.37813700e300".toList := by decide +kernel

end ExportWatch.Decimal

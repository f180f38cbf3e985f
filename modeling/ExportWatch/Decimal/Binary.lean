import ExportWatch.Decimal.Rounding

/-! Doubles as fractions: a finite double is a natural number times a power of
two, with a sign. Everything that prints or reads doubles goes through these
two directions, so it is arithmetic on natural numbers. -/

namespace ExportWatch.Decimal

inductive Magnitude where
  | notANumber
  | infinite (negative : Bool)
  | finite (negative : Bool) (significand : Nat) (exponent : Int)
  deriving DecidableEq, Repr

namespace Magnitude

def ofFloat (value : Float) : Magnitude :=
  let bits := value.toBits.toNat
  let negative := decide (Nat.pow 2 63 ≤ bits)
  let field : Nat := bits / Nat.pow 2 52 % Nat.pow 2 11
  let fraction : Nat := bits % Nat.pow 2 52
  if field = 2047 then
    if fraction = 0 then infinite negative else notANumber
  else if field = 0 then finite negative fraction (-1074)
  else finite negative (Nat.pow 2 52 + fraction) ((field : Int) - 1075)

example : ofFloat 1.5 = finite false (3 * Nat.pow 2 51) (-52) := by decide
example : ofFloat (-0.0) = finite true 0 (-1074) := by decide

def isFinite : Magnitude → Bool
  | finite _ _ _ => true
  | _ => false

end Magnitude

def isFinite (value : Float) : Bool :=
  (Magnitude.ofFloat value).isFinite

/-! A power of two or ten with any whole exponent is the fraction of two natural
powers, of which one is 1. -/

def powerAbove (base : Nat) (exponent : Int) : Nat :=
  base.pow exponent.toNat

def powerBelow (base : Nat) (exponent : Int) : Nat :=
  base.pow (-exponent).toNat

/-! The double nearest to a fraction, ties to the even significand. The unit in
the last place is chosen so that the quotient has 53 binary digits, or is the
smallest unit there is; a quotient that rounds up to 54 digits carries into the
exponent field by itself. Values that round above the largest double become
infinite. -/

def leastExponent : Int :=
  -1074

def unitExponent (numerator denominator : Nat) : Int :=
  let guess : Int := (Nat.log2 numerator : Int) - (Nat.log2 denominator : Int) - 53
  let quotient :=
    numerator * powerBelow 2 guess / (denominator * powerAbove 2 guess)
  max leastExponent (if Nat.pow 2 53 ≤ quotient then guess + 1 else guess)

def nearestBits (numerator denominator : Nat) : Nat :=
  if numerator = 0 then 0
  else
    let unit := unitExponent numerator denominator
    let significand := Tie.toEven.roundQuotient
      (numerator * powerBelow 2 unit) (denominator * powerAbove 2 unit)
    min (2047 * Nat.pow 2 52) ((unit + 1074).toNat * Nat.pow 2 52 + significand)

def nearestFloat (negative : Bool) (numerator denominator : Nat) : Float :=
  let sign := if negative then Nat.pow 2 63 else 0
  Float.ofBits (UInt64.ofNat (sign + nearestBits numerator denominator))

example : nearestFloat false 1 10 = 0.1 := by decide
example : nearestFloat true 1 3 = -1.0 / 3.0 := by decide
example : nearestFloat false (Nat.pow 10 400) 1 = 1.0 / 0.0 := by decide +kernel
example : nearestFloat false 1 (Nat.pow 10 400) = 0.0 := by decide +kernel

/-- A decimal with any exponent. Far outside the range of doubles the power is
not computed: the result is already known. -/
def decimalFloat (negative : Bool) (digits : Nat) (exponent : Int) : Float :=
  let size : Int := (Nat.log2 digits : Int) + 1
  if digits = 0 then nearestFloat negative 0 1
  else if 400 < exponent then nearestFloat negative (Nat.pow 10 400) 1
  else if exponent < -400 - size then nearestFloat negative 1 (Nat.pow 10 400)
  else
    nearestFloat negative (digits * powerAbove 10 exponent) (powerBelow 10 exponent)

example : decimalFloat false 15 (-1) = 1.5 := by decide

end ExportWatch.Decimal

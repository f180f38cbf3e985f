import ExportWatch.Decimal.Binary
import ExportWatch.Text.Digit

/-! The shortest decimal that reads back as a given double. The reals that round
to a double form an interval whose ends belong to it when the significand is
even. For one digit, two digits and so on, the two points of the decimal grid
next to the double are tried; the first grid with a point in the interval wins,
and of two such points the nearer. -/

namespace ExportWatch.Decimal

/-- `digits · 10 ^ exponent`. -/
structure Scaled where
  digits : Nat
  exponent : Int
  deriving DecidableEq, Repr

namespace Scaled

/-- The exponent of the leading digit in scientific notation. -/
def leading (decimal : Scaled) : Int :=
  decimal.exponent + ((Text.digitCount decimal.digits : Nat) : Int) - 1

end Scaled

/-- An interval around a double in quarters of its last binary place: the double
is `4 · significand`, and below a power of two the neighbour is half as far. -/
structure Interval where
  low : Nat
  middle : Nat
  high : Nat
  closed : Bool
  unit : Int

def Interval.around (significand : Nat) (exponent : Int) : Interval where
  low := 4 * significand - (if significand = Nat.pow 2 52 ∧ leastExponent < exponent then 1 else 2)
  middle := 4 * significand
  high := 4 * significand + 2
  closed := significand % 2 = 0
  unit := exponent - 2

/-- Where a point of the grid `10 ^ place` lies: both sides are multiplied by
the same powers, so that the comparison is between natural numbers. -/
structure Grid where
  interval : Interval
  place : Int

namespace Grid

def scaled (grid : Grid) (quarters : Nat) : Nat :=
  quarters * powerAbove 2 grid.interval.unit * powerBelow 10 grid.place

def step (grid : Grid) : Nat :=
  powerBelow 2 grid.interval.unit * powerAbove 10 grid.place

def below (grid : Grid) : Nat :=
  grid.scaled grid.interval.middle / grid.step

def holds (grid : Grid) (point : Nat) : Bool :=
  let position := point * grid.step
  let low := grid.scaled grid.interval.low
  let high := grid.scaled grid.interval.high
  if grid.interval.closed then low ≤ position && position ≤ high
  else low < position && position < high

/-- The point of the grid in the interval that is nearest to the double. A tie
is settled for the even point or for the larger one. -/
def nearest (tie : Tie) (grid : Grid) : Option Nat :=
  let lower := grid.below
  let upper := lower + 1
  match grid.holds lower, grid.holds upper with
  | false, false => none
  | true, false => some lower
  | false, true => some upper
  | true, true =>
      some (tie.roundQuotient (grid.scaled grid.interval.middle) grid.step)

end Grid

/-! The exponent of the leading decimal digit of `significand · 2 ^ exponent`:
guessed from the binary size and put right by at most one. -/

def atLeastPowerOfTen (significand : Nat) (exponent : Int) (power : Int) : Bool :=
  powerAbove 10 power * powerBelow 2 exponent ≤
    significand * powerAbove 2 exponent * powerBelow 10 power

def leadingExponent (significand : Nat) (exponent : Int) : Int :=
  let binary : Int := (Nat.log2 significand : Int) + exponent
  let guess := Int.fdiv (binary * 30103) 100000
  if !atLeastPowerOfTen significand exponent guess then guess - 1
  else if atLeastPowerOfTen significand exponent (guess + 1) then guess + 1
  else guess

def withoutTrailingZeros : Nat → Nat → Int → Scaled
  | 0, digits, exponent => ⟨digits, exponent⟩
  | fuel + 1, digits, exponent =>
      if digits % 10 = 0 then withoutTrailingZeros fuel (digits / 10) (exponent + 1)
      else ⟨digits, exponent⟩

/-! Seventeen digits tell any two doubles apart, so the search never needs more. -/

def shortestFrom (tie : Tie) (interval : Interval) (leading : Int) : Nat → Nat → Scaled
  | 0, count => ⟨(Grid.mk interval (leading - count)).below, leading - count⟩
  | more + 1, count =>
      let grid : Grid := ⟨interval, leading - count⟩
      match grid.nearest tie with
      | some digits => ⟨digits, leading - count⟩
      | none => shortestFrom tie interval leading more (count + 1)

/-- The fewest digits that read back, and of equally many the nearest. -/
def shortest (tie : Tie) (significand : Nat) (exponent : Int) : Scaled :=
  if significand = 0 then ⟨0, 0⟩
  else
    let found := shortestFrom tie (Interval.around significand exponent)
      (leadingExponent significand exponent) 17 0
    withoutTrailingZeros (Text.digitCount found.digits - 1) found.digits found.exponent

example : shortest .toEven (Nat.pow 2 52 + 2702159776422298) (-54) = ⟨4, -1⟩ := by decide +kernel
example : shortest .toEven 1 (-1074) = ⟨5, -324⟩ := by decide +kernel

end ExportWatch.Decimal

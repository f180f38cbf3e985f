import ExportWatch.Unicode.Table

/-! Punycode: a label of any characters written with ASCII letters, digits and
hyphens. The ASCII characters come first; each other character is then given by
how far it lies behind the one before it, counted through all positions of the
growing label, as a number with digits of varying weight. -/

namespace ExportWatch.Punycode

open Text Unicode

def digit (value : Nat) : Char :=
  if value < 26 then Char.ofNat ('a'.toNat + value) else Char.ofNat ('0'.toNat + (value - 26))

def valueOf? (digit : Char) : Option Nat :=
  if isLetter digit then some ((toSmall digit).toNat - 'a'.toNat)
  else if isDigit digit then some (26 + digitValue digit)
  else none

example : (List.range 36).all fun value => valueOf? (digit value) = some value := by decide

/-- The least value of a digit that is not the last one. -/
def threshold (position bias : Nat) : Nat :=
  if position ≤ bias then 1 else min 26 (position - bias)

theorem threshold_positive (position bias : Nat) : 0 < threshold position bias := by
  unfold threshold
  split <;> omega

def number (bias position value : Nat) : List Char :=
  let least := threshold position bias
  if value < least then [digit value]
  else
    digit (least + (value - least) % (36 - least)) ::
      number bias (position + 36) ((value - least) / (36 - least))
termination_by value
decreasing_by
  have positive := threshold_positive position bias
  exact Nat.lt_of_le_of_lt (Nat.div_le_self _ _) (by omega)

/-! The bias follows the size of the distances. -/

def settle (position distance : Nat) : Nat :=
  if 455 < distance then settle (position + 36) (distance / 35)
  else position + 36 * distance / (distance + 38)
termination_by distance
decreasing_by exact Nat.div_lt_self (by omega) (by omega)

def adapt (distance written : Nat) (first : Bool) : Nat :=
  let scaled := if first then distance / 700 else distance / 2
  settle 0 (scaled + scaled / written)

structure Progress where
  text : List Char
  distance : Nat
  bias : Nat
  written : Nat
  first : Bool

def pass (code : Nat) (progress : Progress) (character : Char) : Progress :=
  if character.toNat < code then { progress with distance := progress.distance + 1 }
  else if character.toNat = code then
    { text := progress.text ++ number progress.bias 36 progress.distance
      distance := 0
      bias := adapt progress.distance (progress.written + 1) progress.first
      written := progress.written + 1
      first := false }
  else progress

def passAll (label : List Char) (previous : Nat) (progress : Progress) : List Nat → Progress
  | [] => progress
  | code :: others =>
      let reached :=
        { progress with
          distance := progress.distance + (code - previous) * (progress.written + 1) }
      let passed := label.foldl (pass code) reached
      passAll label (code + 1) { passed with distance := passed.distance + 1 } others

def insertCode (code : Nat) : List Nat → List Nat
  | [] => [code]
  | head :: tail =>
      if code < head then code :: head :: tail
      else if code = head then head :: tail
      else head :: insertCode code tail

/-! Writing. Characters of equal number are written in one pass over the label. -/

def encode (label : List Char) : List Char :=
  let basic := label.filter isAscii
  let codes := (label.filter (!isAscii ·)).foldr (fun character => insertCode character.toNat) []
  let start := if basic.isEmpty then [] else basic ++ ['-']
  (passAll label 128 ⟨start, 0, 72, basic.length, true⟩ codes).text

example : encode "bücher".toList = "bcher-kva".toList := by decide +kernel
example : encode "例え".toList = "r8jz45g".toList := by decide +kernel

/-! Reading. The label grows by one character for each number that has been read. -/

/-- Numbers are words of 32 bits. -/
def numberLimit : Nat :=
  Nat.pow 2 32 - 1

def withinLimit? (value : Nat) : Option Nat :=
  if value ≤ numberLimit then some value else none

/-- What the next number counts from: a code, and a position in the label. -/
structure Growth where
  label : List Char
  code : Nat
  position : Nat
  bias : Nat

def Growth.insert? (growth : Growth) (reached : Nat) : Option Growth :=
  let size := growth.label.length + 1
  let code := growth.code + reached / size
  let place := reached % size
  if code.isValidChar then
    some {
      label := growth.label.insertIdx place (Char.ofNat code)
      code := code
      position := place + 1
      bias := adapt (reached - growth.position) size (growth.position = 0) }
  else none

/-- A number of which some digits have been read. -/
structure Distance where
  reached : Nat
  weight : Nat
  position : Nat

def Growth.distance (growth : Growth) : Distance where
  reached := growth.position
  weight := 1
  position := 36

def growFrom (growth : Growth) (pending : Option Distance) : List Char → Option (List Char)
  | [] => if pending.isSome then none else some growth.label
  | head :: tail => do
      let distance := pending.getD growth.distance
      let value ← valueOf? head
      let reached ← withinLimit? (distance.reached + (← withinLimit? (value * distance.weight)))
      let least := threshold distance.position growth.bias
      if value < least then growFrom (← growth.insert? reached) none tail
      else
        let weight ← withinLimit? (distance.weight * (36 - least))
        growFrom growth (some ⟨reached, weight, distance.position + 36⟩) tail

/-- The last hyphen ends the ASCII characters, of which there is at least one. -/
def splitBasic (text : List Char) : List Char × List Char :=
  let reversed := text.reverse
  let basic := ((reversed.dropWhile (· ≠ '-')).drop 1).reverse
  if basic.isEmpty then ([], text) else (basic, (reversed.takeWhile (· ≠ '-')).reverse)

def decode? (text : List Char) : Option (List Char) :=
  let (basic, rest) := splitBasic text
  growFrom ⟨basic, 128, 0, 72⟩ none rest

example : decode? "bcher-kva".toList = some "bücher".toList := by decide +kernel
example : decode? "r8jz45g".toList = some "例え".toList := by decide +kernel
example : decode? "b".toList = none ∧ decode? "-kva".toList = none := by decide +kernel

end ExportWatch.Punycode

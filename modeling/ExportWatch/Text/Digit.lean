/-! Digits: the ten ASCII digits, the hexadecimal digits, and numbers written
with them. -/

namespace ExportWatch.Text

def isDigit (character : Char) : Bool :=
  '0' ≤ character && character ≤ '9'

def digitValue (character : Char) : Nat :=
  character.toNat - '0'.toNat

def isLetter (character : Char) : Bool :=
  ('a' ≤ character && character ≤ 'z') || ('A' ≤ character && character ≤ 'Z')

def isLetterOrDigit (character : Char) : Bool :=
  isLetter character || isDigit character

/-- Only the twenty-six Latin capitals have a small letter here. -/
def toSmall (character : Char) : Char :=
  if 'A' ≤ character && character ≤ 'Z' then Char.ofNat (character.toNat + 32) else character

def digitsValue (digits : List Char) : Nat :=
  digits.foldl (fun value digit => 10 * value + digitValue digit) 0

def digitsOf (value : Nat) : List Char :=
  Nat.toDigits 10 value

def digitCount (value : Nat) : Nat :=
  (digitsOf value).length

example : digitsValue "0042".toList = 42 := by decide
example : digitsOf 0 = ['0'] := by decide

/-- The digits at the start of a text and what follows them. -/
def spanDigits (text : List Char) : List Char × List Char :=
  (text.takeWhile isDigit, text.dropWhile isDigit)

/-- Exactly `count` digits at the start of a text, as a number. -/
def takeDigits (count : Nat) (text : List Char) : Option (Nat × List Char) :=
  let digits := text.take count
  if digits.length = count && digits.all isDigit then
    some (digitsValue digits, text.drop count)
  else none

example : takeDigits 2 "123".toList = some (12, ['3']) := by decide
example : takeDigits 2 "1".toList = none := by decide

def hexValue (character : Char) : Option Nat :=
  if isDigit character then some (digitValue character)
  else if 'a' ≤ character && character ≤ 'f' then some (character.toNat - 'a'.toNat + 10)
  else if 'A' ≤ character && character ≤ 'F' then some (character.toNat - 'A'.toNat + 10)
  else none

def hexDigit (value : Nat) : Char :=
  if value < 10 then Char.ofNat ('0'.toNat + value) else Char.ofNat ('A'.toNat + (value - 10))

def smallHexDigit (value : Nat) : Char :=
  if value < 10 then Char.ofNat ('0'.toNat + value) else Char.ofNat ('a'.toNat + (value - 10))

example : hexDigit 11 = 'B' := by decide
example : hexValue 'b' = some 11 := by decide

end ExportWatch.Text

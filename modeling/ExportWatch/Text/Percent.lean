import ExportWatch.Text.Digit

/-! Percent encoding: a character that is not kept is written as its bytes, each
as a percent sign and two hexadecimal digits. -/

namespace ExportWatch.Text

def percentByte (byte : UInt8) : List Char :=
  ['%', hexDigit (byte.toNat / 16), hexDigit (byte.toNat % 16)]

def percentCharacter (character : Char) : List Char :=
  (String.utf8EncodeChar character).flatMap percentByte

def percentEncode (keeps : Char → Bool) (text : List Char) : List Char :=
  text.flatMap fun character => if keeps character then [character] else percentCharacter character

example : percentEncode isLetter "aé".toList = "a%C3%A9".toList := by decide

end ExportWatch.Text

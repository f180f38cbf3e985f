import ExportWatch.Text.Cut
import ExportWatch.Text.Digit

/-! Tables of characters as text. A table is a list of words with blanks between
them, and all numbers in it are hexadecimal. In a table of ranges a word is the number
of one character, or the numbers of the first and the last one, as in `300-36F`. -/

namespace ExportWatch.Unicode

open Text

def words (table : String) : List (List Char) :=
  ((table.splitOn "\n").flatMap (·.splitOn " ")).filterMap fun word =>
    if word = "" then none else some word.toList

def number (digits : List Char) : Nat :=
  digits.foldl (fun value digit => 16 * value + (hexValue digit).getD 0) 0

structure Range where
  first : Nat
  last : Nat
  deriving DecidableEq, Repr

def Range.read (word : List Char) : Range :=
  match cutAt '-' word with
  | some (first, last) => ⟨number first, number last⟩
  | none => ⟨number word, number word⟩

def Range.holds (range : Range) (character : Char) : Bool :=
  range.first ≤ character.toNat && character.toNat ≤ range.last

def ranges (table : String) : List Range :=
  (words table).map Range.read

def isIn (table : List Range) (character : Char) : Bool :=
  table.any (·.holds character)

/-- Ranges for each value of a property. -/
abbrev Classes (Value : Type) : Type :=
  List (Value × List Range)

def classes {Value : Type} (tables : List (Value × String)) : Classes Value :=
  tables.map fun (value, table) => (value, ranges table)

def classOf? {Value : Type} (table : Classes Value) (character : Char) : Option Value :=
  (table.find? fun (_, ranges) => isIn ranges character).map (·.1)

example : Range.read "300-36F".toList = ⟨0x300, 0x36F⟩ := by decide
example : Range.read "AD".toList = ⟨0xAD, 0xAD⟩ := by decide

def isAscii (character : Char) : Bool :=
  character.toNat < 128

end ExportWatch.Unicode

import ExportWatch.Text.Cut
import ExportWatch.Text.Percent
import ExportWatch.Url.Label

/-! Hosts: names, and the numeric addresses of both versions of the protocol. -/

namespace ExportWatch.Host

open Text

/-! A number in an address of four bytes is decimal, hexadecimal or octal. -/

def isOctalDigit (character : Char) : Bool :=
  '0' ≤ character && character ≤ '7'

def hexNumber? (digits : List Char) : Option Nat :=
  (digits.mapM hexValue).map fun values => values.foldl (fun sum value => 16 * sum + value) 0

def octalNumber? (digits : List Char) : Option Nat :=
  if digits.all isOctalDigit then
    some (digits.foldl (fun sum digit => 8 * sum + digitValue digit) 0)
  else none

def number? (text : List Char) : Option Nat :=
  match text with
  | [] => none
  | ['0'] => some 0
  | '0' :: mark :: digits =>
      if mark = 'x' ∨ mark = 'X' then hexNumber? digits else octalNumber? (mark :: digits)
  | digits => if digits.all isDigit then some (digitsValue digits) else none

/-! The parts between the points; a point at the end does not count. -/

def dottedParts (text : List Char) : List (List Char) :=
  let all := parts '.' text
  if 1 < all.length && all.getLast? = some [] then all.dropLast else all

def endsInNumber (text : List Char) : Bool :=
  match (dottedParts text).getLast? with
  | some last => (!last.isEmpty && last.all isDigit) || (number? last).isSome
  | none => false

/-- Every number but the last is one byte; the last fills what is left. -/
def fourBytes? (text : List Char) : Option Nat := do
  let all := dottedParts text
  let numbers ← all.mapM number?
  let last ← numbers.getLast?
  let leading := numbers.dropLast
  if 4 < all.length || leading.any (255 < ·) || Nat.pow 256 (4 - leading.length) ≤ last then none
  else some (leading.zipIdx.foldl (fun sum (byte, index) => sum + byte * Nat.pow 256 (3 - index)) last)

def writeFourBytes (address : Nat) : List Char :=
  join ['.'] ([3, 2, 1, 0].map fun place => digitsOf (address / Nat.pow 256 place % 256))

example : (fourBytes? "127.1".toList).map writeFourBytes = some "127.0.0.1".toList := by decide
example : fourBytes? "256.1.1.1".toList = none := by decide

/-! Eight groups of four hexadecimal digits. Two colons stand for one or more groups
of zeros, and the last two groups may be written as four decimal bytes. -/

def group? (text : List Char) : Option Nat :=
  if text.isEmpty || 4 < text.length then none else hexNumber? text

def strictByte? (text : List Char) : Option Nat :=
  if text.isEmpty || 3 < text.length || !text.all isDigit ||
      (1 < text.length && text.head? = some '0') || 255 < digitsValue text then none
  else some (digitsValue text)

def byteGroups? (text : List Char) : Option (List Nat) :=
  match (parts '.' text).mapM strictByte? with
  | some [a, b, c, d] => some [a * 256 + b, c * 256 + d]
  | _ => none

def groupsOf (mayEndInBytes : Bool) : List (List Char) → Option (List Nat)
  | [] => some []
  | [last] =>
      if mayEndInBytes && last.contains '.' then byteGroups? last else (group? last).map ([·])
  | head :: tail => do
      let first ← group? head
      let others ← groupsOf mayEndInBytes tail
      return first :: others

def groups? (mayEndInBytes : Bool) (text : List Char) : Option (List Nat) :=
  if text.isEmpty then some [] else groupsOf mayEndInBytes (parts ':' text)

def eightGroups? (text : List Char) : Option (List Nat) :=
  match cut [':', ':'] text with
  | none => do
      let groups ← groups? true text
      if groups.length = 8 then some groups else none
  | some (before, after) => do
      let left ← groups? false before
      let right ← groups? true after
      if left.length + right.length ≤ 7 then
        some (left ++ List.replicate (8 - left.length - right.length) 0 ++ right)
      else none

/-! Written in small letters without leading zeros; the first longest run of at
least two zero groups is left out. -/

def zeroRun (groups : List Nat) : Nat :=
  (groups.takeWhile (· = 0)).length

def longestRun (groups : List Nat) : Nat × Nat :=
  (List.range groups.length).foldl
    (fun (start, length) index =>
      let found := zeroRun (groups.drop index)
      if length < found then (index, found) else (start, length))
    (0, 1)

def hexText (value : Nat) : List Char :=
  Nat.toDigits 16 value

def writeGroups (groups : List Nat) : List Char :=
  let (start, length) := longestRun groups
  let texts := groups.map hexText
  if length < 2 then join [':'] texts
  else join [':'] (texts.take start) ++ ':' :: ':' :: join [':'] (texts.drop (start + length))

example : (eightGroups? "2001:DB8::0:1".toList).map writeGroups =
    some "2001:db8::1".toList := by decide +kernel
example : (eightGroups? "::ffff:1.2.3.4".toList).map writeGroups =
    some "::ffff:102:304".toList := by decide +kernel
example : eightGroups? "1:2".toList = none := by decide

/-! Names. Percent signs are resolved first. A name that then ends in a number is an
address of four bytes. -/

def percentBytes : List Char → List UInt8
  | [] => []
  | '%' :: first :: second :: rest =>
      match hexValue first, hexValue second with
      | some high, some low => UInt8.ofNat (16 * high + low) :: percentBytes rest
      | _, _ => String.utf8EncodeChar '%' ++ percentBytes (first :: second :: rest)
  | head :: tail => String.utf8EncodeChar head ++ percentBytes tail

def decoded? (text : List Char) : Option (List Char) :=
  (String.fromUTF8? ⟨(percentBytes text).toArray⟩).map String.toList

def isForbidden (character : Char) : Bool :=
  character.toNat = 0 || "\t\n\r #/:<>?@[\\]^|".toList.contains character

def isForbiddenInName (character : Char) : Bool :=
  isForbidden character || character.toNat < 0x20 || character = '%' || character.toNat = 0x7F

def name? (text : List Char) : Option (List Char) := do
  let name ← HostName.toAscii? (← decoded? text)
  if name.isEmpty || name.any isForbiddenInName then none
  else if endsInNumber name then (fourBytes? name).map writeFourBytes
  else some name

/-! Where a scheme gives hosts no meaning, they are kept as they are. -/

def keptInHost (character : Char) : Bool :=
  0x20 ≤ character.toNat && character.toNat ≤ 0x7E

def plain? (text : List Char) : Option (List Char) :=
  if text.any isForbidden then none else some (percentEncode keptInHost text)

def bracketed? (text : List Char) : Option (List Char) := do
  if text.getLast? = some ']' then
    let groups ← eightGroups? text.dropLast
    return '[' :: writeGroups groups ++ [']']
  else none

def read? (special : Bool) (text : List Char) : Option (List Char) :=
  match text with
  | '[' :: rest => bracketed? rest
  | _ => if special then name? text else plain? text

example : read? true "EXPORTS.test".toList = some "exports.test".toList := by decide +kernel
example : read? true "[::1".toList = none := by decide +kernel

end ExportWatch.Host

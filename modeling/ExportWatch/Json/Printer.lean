import ExportWatch.Json.Value
import ExportWatch.Decimal.Style

/-! Writing JSON, on one line or indented. -/

namespace ExportWatch.Json

open Text Decimal

/-- A real number has a point or an exponent, so that it is told from a whole
number. A value without digits is written as null. -/
def realStyle : Style where
  positional := fun leading => -5 ≤ leading && leading ≤ 15
  wholeMark := ".0".toList
  exponentPlus := true
  tie := .toEven

def realText (value : Float) : List Char :=
  match Magnitude.ofFloat value with
  | .finite negative significand exponent => realStyle.finiteText negative significand exponent
  | _ => "null".toList

def Number.text : Number → List Char
  | .whole value => wholeText value
  | .real value => realText value

example : realText 18.0 = "18.0".toList := by decide +kernel
example : realText 1e16 = "1e+16".toList := by decide +kernel
example : realText 0.00001 = "0.00001".toList := by decide +kernel

/-! Quotes, backslashes and control characters are escaped, and nothing else. -/

def controlMarks : List (Char × Char) :=
  [('"', '"'), ('\\', '\\'), ('\x08', 'b'), ('\x0c', 'f'), ('\n', 'n'), ('\r', 'r'), ('\t', 't')]

def escape (character : Char) : List Char :=
  match controlMarks.lookup character with
  | some mark => ['\\', mark]
  | none =>
      if character.toNat < 0x20 then
        ['\\', 'u', '0', '0', smallHexDigit (character.toNat / 16),
          smallHexDigit (character.toNat % 16)]
      else [character]

def quoted (text : String) : List Char :=
  '"' :: text.toList.flatMap escape ++ ['"']

example : quoted "a\"\u001f" = "\"a\\\"\\u001f\"".toList := by decide

/-- A layout says what stands before each item of a container of some depth,
before its end, and after the colon of a member. -/
structure Layout where
  lineBreak : Nat → List Char
  colon : List Char

def onOneLine : Layout where
  lineBreak := fun _ => []
  colon := [':']

def indented : Layout where
  lineBreak := fun depth => '\n' :: List.replicate (2 * depth) ' '
  colon := [':', ' ']

def enclosed (layout : Layout) (opening closing : Char) (depth : Nat) (body : List Char) :
    List Char :=
  if body.isEmpty then [opening, closing]
  else opening :: body ++ layout.lineBreak depth ++ [closing]

mutual

def Value.write (layout : Layout) (depth : Nat) : Value → List Char
  | .null => "null".toList
  | .bool value => if value then "true".toList else "false".toList
  | .number value => value.text
  | .string text => quoted text
  | .array items => enclosed layout '[' ']' depth (writeItems layout (depth + 1) items)
  | .object members =>
      enclosed layout '\x7b' '\x7d' depth (writeMembers layout (depth + 1) members)

def writeItems (layout : Layout) (depth : Nat) : List Value → List Char
  | [] => []
  | head :: tail =>
      layout.lineBreak depth ++ head.write layout depth ++
        (if tail.isEmpty then [] else ',' :: writeItems layout depth tail)

def writeMembers (layout : Layout) (depth : Nat) : List (String × Value) → List Char
  | [] => []
  | (name, head) :: tail =>
      layout.lineBreak depth ++ quoted name ++ layout.colon ++ head.write layout depth ++
        (if tail.isEmpty then [] else ',' :: writeMembers layout depth tail)

end

namespace Value

def compact (value : Value) : String :=
  String.ofList (value.write onOneLine 0)

def pretty (value : Value) : String :=
  String.ofList (value.write indented 0)

end Value

example : (Value.object [("a", .array [.null, .bool true]), ("b", .object [])]).write onOneLine 0 =
    "\x7b\"a\":[null,true],\"b\":\x7b\x7d\x7d".toList := by decide +kernel
example : (Value.array [.natural 1]).write indented 0 = "[\n  1\n]".toList := by decide +kernel

end ExportWatch.Json

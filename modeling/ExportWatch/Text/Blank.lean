/-! Blank characters, and cutting text at them. Blank means the Unicode property
White_Space, so a no-break space is blank and a zero-width space is not. -/

namespace ExportWatch.Text

def isBlank (character : Char) : Bool :=
  let code := character.toNat
  (9 ≤ code && code ≤ 13) || code == 0x20 || code == 0x85 || code == 0xA0 ||
    code == 0x1680 || (0x2000 ≤ code && code ≤ 0x200A) || code == 0x2028 ||
    code == 0x2029 || code == 0x202F || code == 0x205F || code == 0x3000

example : isBlank '\t' && isBlank '\u00a0' && isBlank '\u3000' := by decide
example : (isBlank '\u200b' || isBlank '\u0000' || isBlank 'a') = false := by decide

/-! Blank characters are removed at both ends only. -/

def trimStart (text : List Char) : List Char :=
  text.dropWhile isBlank

def trimEnd (text : List Char) : List Char :=
  (text.reverse.dropWhile isBlank).reverse

def trim (text : List Char) : List Char :=
  trimEnd (trimStart text)

def allBlank (text : List Char) : Bool :=
  text.all isBlank

example : trim " a b\n".toList = "a b".toList := by decide

/-! The maximal runs of characters that are not blank. `current` is the run
being read, last character first. -/

def wordsFrom (current : List Char) : List Char → List (List Char)
  | [] => if current.isEmpty then [] else [current.reverse]
  | head :: tail =>
      if isBlank head then
        if current.isEmpty then wordsFrom [] tail
        else current.reverse :: wordsFrom [] tail
      else wordsFrom (head :: current) tail

def words (text : List Char) : List (List Char) :=
  wordsFrom [] text

example : words " 3 days ".toList = ["3".toList, "days".toList] := by decide

end ExportWatch.Text

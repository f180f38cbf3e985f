import ExportWatch.Unicode.Composition
import ExportWatch.Unicode.Mark

/-! The composed form of a text: texts that look the same because they are made of the
same letters and marks are the same text. -/

namespace ExportWatch.Unicode

/-! All characters are taken apart first. -/

/-- No character has more than four parts. -/
def partsLimit : Nat :=
  4

def split (depth : Nat) (character : Char) : List Char :=
  match depth with
  | 0 => [character]
  | depth + 1 =>
      match split? character with
      | some (first, second) => split depth first ++ [second]
      | none => [character]

/-! Marks that follow each other are put in the order of their classes. -/

def insertMark (character : Char) : List Char → List Char
  | [] => [character]
  | head :: tail =>
      if 0 < combiningClass head && combiningClass head < combiningClass character then
        head :: insertMark character tail
      else character :: head :: tail

def ordered (text : List Char) : List Char :=
  text.foldr insertMark []

/-! Then each character joins the last one of class 0 before it, unless something of
the same or a higher class stands between them. -/

def lastClass (between : List Char) : Nat :=
  match between.getLast? with
  | some last => combiningClass last
  | none => 0

def isFree (between : List Char) (character : Char) : Bool :=
  between.isEmpty || lastClass between < combiningClass character

def joinFrom (start : Char) (between : List Char) : List Char → List Char
  | [] => start :: between
  | head :: tail =>
      match if isFree between head then join? start head else none with
      | some whole => joinFrom whole between tail
      | none =>
          if combiningClass head = 0 then start :: between ++ joinFrom head [] tail
          else joinFrom start (between ++ [head]) tail

def joinAll : List Char → List Char
  | [] => []
  | head :: tail => joinFrom head [] tail

def composed (text : List Char) : List Char :=
  if text.all isAscii then text else joinAll (ordered (text.flatMap (split partsLimit)))

end ExportWatch.Unicode

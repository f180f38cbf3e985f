import ExportWatch.Text.Blank
import ExportWatch.Text.Cut
import ExportWatch.Text.Digit

/-! The Link header: addresses in angle brackets, each with parameters that say how
what is there relates to what is here. -/

namespace ExportWatch

open Text

structure Link where
  relation : List Char
  target : List Char
  deriving DecidableEq, Repr

namespace Link

/-! A value may be quoted, and a comma may follow it. It names one or more
relations. -/

def withoutEnd (mark : Char) (text : List Char) : List Char :=
  (text.reverse.dropWhile (· = mark)).reverse

def withoutEnds (mark : Char) (text : List Char) : List Char :=
  withoutEnd mark (text.dropWhile (· = mark))

def unquoted (value : List Char) : List Char :=
  withoutEnds '"' (trim (withoutEnd ',' (trim value)))

def isRelationName (name : List Char) : Bool :=
  (trim name).map toSmall = "rel".toList

def relations (parameter : List Char) : List (List Char) :=
  match cutAt '=' parameter with
  | some (name, value) =>
      if isRelationName name then (words (unquoted value)).map fun relation => relation.map toSmall
      else []
  | none => []

def ofParameters (target parameters : List Char) : List Link :=
  ((parts ';' parameters).flatMap relations).map fun relation => ⟨relation, target⟩

/-! Targets may hold commas, so a new entry starts at an opening bracket. An entry
whose bracket is not closed ends the header. -/

theorem entry_shorter {text before rest target others : List Char}
    (opened : cutAt '<' text = some (before, rest))
    (closed : cutAt '>' rest = some (target, others)) : others.length < text.length :=
  Nat.lt_trans (length_lt_of_cutAt closed) (length_lt_of_cutAt opened)

def readAll (text : List Char) : List Link :=
  match opened : cutAt '<' text with
  | none => []
  | some (_, rest) =>
      match closed : cutAt '>' rest with
      | none => []
      | some (target, others) =>
          have := entry_shorter opened closed
          ofParameters target (others.takeWhile (· ≠ '<')) ++ readAll others
termination_by text.length

example : readAll "<jobs?bbox=1,2&page=3>; rel=\"next\", </jobs?page=1>;rel=Prev; t=\"x\"".toList =
    [⟨"next".toList, "jobs?bbox=1,2&page=3".toList⟩,
      ⟨"prev".toList, "/jobs?page=1".toList⟩] := by decide +kernel
example : readAll "<broken".toList = [] := by decide +kernel

end Link

end ExportWatch

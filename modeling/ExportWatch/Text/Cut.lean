/-! Cutting text at marks. A mark that does not occur leaves the text whole. -/

namespace ExportWatch.Text

/-- The parts between the marks: one more part than there are marks. -/
def parts (mark : Char) : List Char → List (List Char)
  | [] => [[]]
  | head :: tail =>
      if head = mark then [] :: parts mark tail
      else
        match parts mark tail with
        | [] => [[head]]
        | first :: others => (head :: first) :: others

example : parts ',' "a,,b".toList = ["a".toList, [], "b".toList] := by decide
example : parts ',' [] = [[]] := by decide

theorem parts_ne_nil (mark : Char) (text : List Char) : parts mark text ≠ [] := by
  cases text with
  | nil => simp [parts]
  | cons head tail =>
      by_cases equal : head = mark
      · simp [parts, equal]
      · simp only [parts, equal, if_false]
        split <;> simp

/-- What follows a given beginning. -/
def afterStart : List Char → List Char → Option (List Char)
  | [], text => some text
  | _ :: _, [] => none
  | first :: others, head :: tail =>
      if first = head then afterStart others tail else none

example : afterStart "items".toList "items 1".toList = some " 1".toList := by decide

/-! The text before and after the first occurrence of a mark of one or more
characters. -/

def cut (mark : List Char) : List Char → Option (List Char × List Char)
  | [] => if mark.isEmpty then some ([], []) else none
  | head :: tail =>
      match afterStart mark (head :: tail) with
      | some rest => some ([], rest)
      | none => (cut mark tail).map fun (before, after) => (head :: before, after)

def cutAt (mark : Char) (text : List Char) : Option (List Char × List Char) :=
  cut [mark] text

example : cut ", ".toList "1 day, 2, 3".toList = some ("1 day".toList, "2, 3".toList) := by
  decide
example : cutAt '/' "1-2/3/4".toList = some ("1-2".toList, "3/4".toList) := by decide
example : cutAt '/' "1-2".toList = none := by decide

theorem length_of_afterStart {start text rest : List Char}
    (found : afterStart start text = some rest) : start.length + rest.length = text.length := by
  induction start generalizing text with
  | nil => simp_all [afterStart]
  | cons first others induction =>
      cases text with
      | nil => simp [afterStart] at found
      | cons head tail =>
          by_cases equal : first = head
          · have shorter := induction (by simpa [afterStart, equal] using found)
            simp only [List.length_cons]
            omega
          · simp [afterStart, equal] at found

theorem length_of_cut {mark text before after : List Char}
    (found : cut mark text = some (before, after)) :
    before.length + mark.length + after.length = text.length := by
  induction text generalizing before with
  | nil =>
      cases mark with
      | nil => simp_all [cut]
      | cons first others => simp [cut] at found
  | cons head tail induction =>
      unfold cut at found
      split at found
      · next rest matched =>
          have length := length_of_afterStart matched
          simp only [Option.some.injEq, Prod.mk.injEq] at found
          obtain ⟨rfl, rfl⟩ := found
          simpa using length
      · simp only [Option.map_eq_some_iff, Prod.mk.injEq, Prod.exists] at found
        obtain ⟨first, rest, inner, rfl, rfl⟩ := found
        have shorter := induction inner
        simp only [List.length_cons]
        omega

theorem length_lt_of_cutAt {mark : Char} {text before after : List Char}
    (found : cutAt mark text = some (before, after)) : after.length < text.length := by
  have length := length_of_cut found
  simp only [List.length_singleton] at length
  omega

/-- Text with a mark between each two parts. -/
def join (mark : List Char) (pieces : List (List Char)) : List Char :=
  mark.intercalate pieces

example : join ", ".toList ["a".toList, "b".toList] = "a, b".toList := by decide

/-! The lines of a text: a line break ends a line, a carriage return before it
belongs to the break, and no empty line follows the last break. -/

def withoutReturn (line : List Char) : List Char :=
  match line.reverse with
  | '\r' :: others => others.reverse
  | _ => line

def lines (text : List Char) : List (List Char) :=
  let pieces := parts '\n' text
  let last := pieces.getLastD []
  let broken := pieces.dropLast.map withoutReturn
  if last.isEmpty then broken else broken ++ [last]

example : lines "a\r\nb\n".toList = ["a".toList, "b".toList] := by decide

end ExportWatch.Text

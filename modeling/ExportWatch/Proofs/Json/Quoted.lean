import ExportWatch.Json.Printer
import ExportWatch.Json.Token
import ExportWatch.Proofs.Lookup

/-! Quoted text is read as the text that was quoted. -/

namespace ExportWatch.Json

/-- What an escaped character is scanned as. -/
def pieceOf (character : Char) : Piece :=
  if character ∉ controlMarks.map (·.1) ∧ character.toNat < 0x20 then .unit character.toNat
  else .character character

theorem hexValue_smallHexDigit :
    ∀ value < 16, Text.hexValue (Text.smallHexDigit value) = some value := by
  decide

theorem hexFour_of_control {code : Nat} (control : code < 0x20) :
    hexFour '0' '0' (Text.smallHexDigit (code / 16)) (Text.smallHexDigit (code % 16)) =
      some code := by
  have zero : Text.hexValue '0' = some 0 := by decide
  simp only [hexFour, zero, hexValue_smallHexDigit (code / 16) (by omega),
    hexValue_smallHexDigit (code % 16) (by omega), bind, Option.bind, pure]
  congr 1
  omega

theorem scanText_quote (rest : List Char) : scanText ('"' :: rest) = ⟨[], .ok rest⟩ := by
  rw [scanText.eq_def]
  rfl

theorem scanText_marked {mark character : Char} (rest : List Char) (notUnit : mark ≠ 'u')
    (found : escapes.lookup mark = some character) :
    scanText ('\\' :: mark :: rest) = (scanText rest).after (.character character) := by
  rw [scanText.eq_def]
  simp [notUnit, found]

theorem scanText_unit {first second third fourth : Char} {code : Nat} (rest : List Char)
    (read : hexFour first second third fourth = some code) :
    scanText ('\\' :: 'u' :: first :: second :: third :: fourth :: rest) =
      (scanText rest).after (.unit code) := by
  rw [scanText.eq_def]
  simp [read]

theorem scanText_plain {character : Char} (rest : List Char) (notQuote : character ≠ '"')
    (notEscape : character ≠ '\\') (printable : ¬ character.toNat < 0x20) :
    scanText (character :: rest) = (scanText rest).after (.character character) := by
  rw [scanText.eq_def]
  simp [notQuote, notEscape, printable]

theorem scanText_escape (character : Char) (rest : List Char) :
    scanText (escape character ++ rest) = (scanText rest).after (pieceOf character) := by
  unfold escape
  split
  · next mark found =>
      have member := mem_of_lookup found
      have marked : pieceOf character = .character character := by
        rw [pieceOf, if_neg fun both => both.1 (List.mem_map_of_mem member)]
      rw [marked]
      apply scanText_marked
      · rintro rfl
        simp [controlMarks] at member
      · -- Every mark stands for the character it was written for.
        have inverse : ∀ entry ∈ controlMarks, escapes.lookup entry.2 = some entry.1 := by decide
        exact inverse _ member
  · next found =>
      have unmarked := lookup_eq_none_iff_not_mem.mp found
      split
      · next control =>
          rw [pieceOf, if_pos ⟨unmarked, control⟩]
          exact scanText_unit rest (hexFour_of_control control)
      · next printable =>
          rw [pieceOf, if_neg fun both => printable both.2]
          apply scanText_plain rest _ _ printable
          · rintro rfl
            exact unmarked (by decide)
          · rintro rfl
            exact unmarked (by decide)

theorem scanText_quoted (text rest : List Char) :
    scanText (text.flatMap escape ++ '"' :: rest) = ⟨text.map pieceOf, .ok rest⟩ := by
  induction text with
  | nil => exact scanText_quote rest
  | cons head tail induction =>
      rw [List.flatMap_cons, List.append_assoc, scanText_escape, induction]
      rfl

theorem readPieces_map (text : List Char) : readPieces none (text.map pieceOf) = .ok text := by
  induction text with
  | nil => rfl
  | cons head tail induction =>
      rw [List.map_cons, pieceOf]
      split
      · next control =>
          have notLow : isLow head.toNat = false := by simp [isLow]; omega
          have notHigh : isHigh head.toNat = false := by simp [isHigh]; omega
          rw [readPieces.eq_def]
          simp [notLow, notHigh, induction, Except.map, Char.ofNat_toNat]
      · rw [readPieces.eq_def]
        simp [induction, Except.map]

/-- A quoted text is scanned to its end, and has its contents back. -/
theorem content_scanText_quoted (text rest : List Char) :
    (scanText (text.flatMap escape ++ '"' :: rest)).content = .ok text ∧
      (scanText (text.flatMap escape ++ '"' :: rest)).ending = .ok rest := by
  rw [scanText_quoted]
  exact ⟨readPieces_map text, rfl⟩

end ExportWatch.Json

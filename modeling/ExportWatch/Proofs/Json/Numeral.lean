import ExportWatch.Json.Decoder
import ExportWatch.Json.Printer
import ExportWatch.Proofs.Text.Digit

/-! Numbers are read as the numbers that were written. What a numeral is does not
depend on what comes behind it, as long as that cannot belong to it. -/

namespace ExportWatch.Json

open Text

/-- What follows a numeral does not go on with it. -/
def EndsNumeral (rest : List Char) : Prop :=
  ∀ head ∈ rest.head?, isDigit head = false ∧ head ≠ '.' ∧ head ≠ 'e' ∧ head ≠ 'E'

theorem EndsNumeral.endsDigits {rest : List Char} (ends : EndsNumeral rest) : EndsDigits rest :=
  fun head isHead => (ends head isHead).1

theorem endsNumeral_nil : EndsNumeral [] := by
  intro head isHead
  cases isHead

namespace Numeral

variable {text left rest : List Char}

/-! Each part of a numeral is scanned alike when more text follows, as long as that
text does not belong to the part. -/

theorem scanWhole_append {digits : List Char} (ends : EndsNumeral rest)
    (scanned : scanWhole text = .ok (digits, left)) :
    scanWhole (text ++ rest) = .ok (digits, left ++ rest) := by
  have longer := spanDigits_append text fun _ => ends.endsDigits
  unfold scanWhole at scanned ⊢
  simp only [longer]
  generalize spanDigits text = span at scanned
  rcases span with ⟨_ | ⟨head, tail⟩, after⟩
  · cases scanned
  · simp only [] at scanned ⊢
    split at scanned
    · cases scanned
    · cases scanned
    · cases scanned
      rfl

theorem scanFraction_append {digits : List Char} (ends : EndsNumeral rest)
    (scanned : scanFraction text = .ok (digits, left)) :
    scanFraction (text ++ rest) = .ok (digits, left ++ rest) := by
  unfold scanFraction at scanned
  split at scanned
  · next tail =>
      have longer := spanDigits_append tail fun _ => ends.endsDigits
      simp only [List.cons_append, scanFraction, longer] at scanned ⊢
      split at scanned
      · cases scanned
      · next filled =>
          cases scanned
          rw [if_neg filled]
          rfl
  · next noPoint =>
      cases scanned
      unfold scanFraction
      split
      · next tail same =>
          cases text with
          | nil => exact absurd rfl (ends '.' (by rw [List.nil_append] at same; rw [same]; rfl)).2.1
          | cons head others =>
              cases same
              exact absurd rfl (noPoint others)
      · rfl

theorem takeSign_append (notNil : text ≠ []) :
    Decimal.Literal.takeSign (text ++ rest) =
      ((Decimal.Literal.takeSign text).1, (Decimal.Literal.takeSign text).2 ++ rest) := by
  cases text with
  | nil => contradiction
  | cons head tail =>
      unfold Decimal.Literal.takeSign
      simp only [List.cons_append]
      split <;> simp_all

theorem scanExponent_append {exponent : Option (Bool × List Char)} (ends : EndsNumeral rest)
    (scanned : scanExponent text = .ok (exponent, left)) :
    scanExponent (text ++ rest) = .ok (exponent, left ++ rest) := by
  cases text with
  | nil =>
      cases scanned
      cases rest with
      | nil => rfl
      | cons head tail =>
          rcases ends head rfl with ⟨-, -, small, large⟩
          simp [scanExponent, small, large]
  | cons mark tail =>
      simp only [scanExponent, List.cons_append] at scanned ⊢
      by_cases marked : mark = 'e' ∨ mark = 'E'
      · rw [if_pos marked] at scanned ⊢
        cases tail with
        | nil => cases scanned
        | cons head others =>
            rw [takeSign_append (List.cons_ne_nil head others),
              spanDigits_append _ fun _ => ends.endsDigits]
            split at scanned
            · cases scanned
            · next filled =>
                cases scanned
                rw [if_neg filled]
      · rw [if_neg marked] at scanned ⊢
        cases scanned
        rfl

/-- The sign of a numeral and what follows it. -/
def splitSign : List Char → Bool × List Char
  | '-' :: rest => (true, rest)
  | text => (false, text)

theorem scan_eq (text : List Char) :
    scan text = do
      let whole ← scanWhole (splitSign text).2
      let fraction ← scanFraction whole.2
      let exponent ← scanExponent fraction.2
      return (⟨(splitSign text).1, whole.1, fraction.1, exponent.1⟩, exponent.2) := by
  unfold scan splitSign
  split
  · rfl
  · next notNegative => simp

/-- What was scanned of each part of a numeral. -/
structure Parts (text : List Char) (numeral : Numeral) (left : List Char) : Prop where
  negative : (splitSign text).1 = numeral.negative
  parts : ∃ afterWhole afterFraction,
    scanWhole (splitSign text).2 = .ok (numeral.whole, afterWhole) ∧
      scanFraction afterWhole = .ok (numeral.fraction, afterFraction) ∧
      scanExponent afterFraction = .ok (numeral.exponent, left)

theorem scan_iff {numeral : Numeral} :
    scan text = .ok (numeral, left) ↔ Parts text numeral left := by
  rw [scan_eq]
  constructor
  · intro scanned
    cases whole : scanWhole (splitSign text).2 with
    | error fault => rw [whole] at scanned; cases scanned
    | ok wholeRead =>
        cases fraction : scanFraction wholeRead.2 with
        | error fault => simp [whole, fraction, bind, Except.bind] at scanned
        | ok fractionRead =>
            cases exponent : scanExponent fractionRead.2 with
            | error fault => simp [whole, fraction, exponent, bind, Except.bind] at scanned
            | ok exponentRead =>
                simp only [whole, fraction, exponent, bind, Except.bind] at scanned
                cases scanned
                exact ⟨rfl, wholeRead.2, fractionRead.2, whole, fraction, exponent⟩
  · rintro ⟨negative, afterWhole, afterFraction, whole, fraction, exponent⟩
    simp [whole, fraction, exponent, negative, bind, Except.bind, pure, Except.pure]

theorem splitSign_append (notNil : text ≠ []) :
    splitSign (text ++ rest) = ((splitSign text).1, (splitSign text).2 ++ rest) := by
  cases text with
  | nil => contradiction
  | cons head tail =>
      unfold splitSign
      simp only [List.cons_append]
      split <;> simp_all

theorem ne_nil_of_scan {numeral : Numeral} (scanned : scan text = .ok (numeral, left)) :
    text ≠ [] := by
  rintro rfl
  cases scanned

/-- A numeral is scanned alike whatever follows it. -/
theorem scan_append {numeral : Numeral} (ends : EndsNumeral rest)
    (scanned : scan text = .ok (numeral, left)) :
    scan (text ++ rest) = .ok (numeral, left ++ rest) := by
  have notNil := ne_nil_of_scan scanned
  rcases scan_iff.mp scanned with ⟨negative, afterWhole, afterFraction, whole, fraction, exponent⟩
  rw [scan_iff]
  refine ⟨?_, afterWhole ++ rest, afterFraction ++ rest, ?_,
    scanFraction_append ends fraction, scanExponent_append ends exponent⟩
  · rw [splitSign_append notNil, negative]
  · rw [splitSign_append notNil]
    exact scanWhole_append ends whole

/-! What is left of a text behind a numeral is an end of the text. -/

theorem suffix_of_scanWhole {digits : List Char} (scanned : scanWhole text = .ok (digits, left)) :
    left <:+ text := by
  unfold scanWhole at scanned
  simp only [] at scanned
  split at scanned
  · cases scanned
  · cases scanned
  · cases scanned
    exact List.dropWhile_suffix _

theorem suffix_of_scanFraction {digits : List Char}
    (scanned : scanFraction text = .ok (digits, left)) : left <:+ text := by
  unfold scanFraction at scanned
  split at scanned
  · simp only [] at scanned
    split at scanned
    · cases scanned
    · cases scanned
      exact (List.dropWhile_suffix _).trans (List.suffix_cons _ _)
  · cases scanned
    exact List.suffix_refl _

theorem suffix_takeSign (text : List Char) : (Decimal.Literal.takeSign text).2 <:+ text := by
  unfold Decimal.Literal.takeSign
  split
  · exact List.suffix_cons _ _
  · exact List.suffix_cons _ _
  · exact List.suffix_refl _

theorem suffix_of_scanExponent {exponent : Option (Bool × List Char)}
    (scanned : scanExponent text = .ok (exponent, left)) : left <:+ text := by
  cases text with
  | nil =>
      cases scanned
      exact List.suffix_refl _
  | cons mark tail =>
      simp only [scanExponent] at scanned
      split at scanned
      · split at scanned
        · cases scanned
        · cases scanned
          exact ((List.dropWhile_suffix _).trans (suffix_takeSign tail)).trans
            (List.suffix_cons _ _)
      · cases scanned
        exact List.suffix_refl _

theorem suffix_splitSign (text : List Char) : (splitSign text).2 <:+ text := by
  unfold splitSign
  split
  · exact List.suffix_cons _ _
  · exact List.suffix_refl _

theorem suffix_of_scan {numeral : Numeral} (scanned : scan text = .ok (numeral, left)) :
    left <:+ text := by
  rcases scan_iff.mp scanned with ⟨-, afterWhole, afterFraction, whole, fraction, exponent⟩
  exact (suffix_of_scanExponent exponent).trans ((suffix_of_scanFraction fraction).trans
    ((suffix_of_scanWhole whole).trans (suffix_splitSign text)))

/-! A numeral without fraction and exponent is a sign and digits. -/

theorem digits_of_scanWhole {digits : List Char} (scanned : scanWhole text = .ok (digits, [])) :
    ∀ character ∈ text, isDigit character = true := by
  unfold scanWhole at scanned
  simp only [] at scanned
  have nothingLeft : (spanDigits text).2 = [] := by
    split at scanned
    · cases scanned
    · cases scanned
    · rw [Except.ok.injEq] at scanned
      rw [scanned]
  exact List.dropWhile_eq_nil_iff.mp nothingLeft

theorem nothing_of_scanFraction (scanned : scanFraction text = .ok ([], left)) : text = left := by
  unfold scanFraction at scanned
  split at scanned
  · simp only [] at scanned
    split at scanned
    · cases scanned
    · next filled =>
        rw [Except.ok.injEq] at scanned
        rw [scanned] at filled
        exact absurd rfl filled
  · cases scanned
    rfl

theorem nothing_of_scanExponent (scanned : scanExponent text = .ok (none, [])) : text = [] := by
  cases text with
  | nil => rfl
  | cons mark tail =>
      simp only [scanExponent] at scanned
      split at scanned
      · split at scanned <;> cases scanned
      · cases scanned

theorem plain_of_scan {numeral : Numeral} (scanned : scan text = .ok (numeral, []))
    (noFraction : numeral.fraction = []) (noExponent : numeral.exponent = none) :
    ∀ character ∈ text, character = '-' ∨ isDigit character = true := by
  rcases scan_iff.mp scanned with ⟨-, afterWhole, afterFraction, whole, fraction, exponent⟩
  rw [noExponent] at exponent
  rw [noFraction] at fraction
  rw [nothing_of_scanFraction fraction, nothing_of_scanExponent exponent] at whole
  have digits := digits_of_scanWhole whole
  intro character member
  unfold splitSign at digits
  split at digits
  · rcases List.mem_cons.mp member with rfl | member
    · exact .inl rfl
    · exact .inr (digits character member)
  · exact .inr (digits character member)

end Numeral

end ExportWatch.Json

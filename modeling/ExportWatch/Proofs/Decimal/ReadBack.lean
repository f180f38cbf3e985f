import ExportWatch.Decimal.Style
import ExportWatch.Proofs.Decimal.Literal
import ExportWatch.Proofs.Decimal.SeventeenDigits
import ExportWatch.Proofs.Text.Pad
import ExportWatch.Text.Blank
import Mathlib

/-! Doubles that are written with all digits in place are read back: the text is a literal, and the
number it writes lies in the interval around the double. -/

namespace ExportWatch.Decimal

open Text Literal

/-- Digits with a point before the last of them, of which there are more. -/
theorem isMantissa_pointed {digits : List Char} {count : Nat}
    (all : ∀ digit ∈ digits, isDigit digit = true) (long : count < digits.length) :
    IsMantissa (digits.take (digits.length - count)) (digits.drop (digits.length - count))
      (digits.take (digits.length - count) ++ '.' :: digits.drop (digits.length - count)) := by
  refine .pointed (fun digit member => all digit (List.mem_of_mem_take member))
    (fun digit member => all digit (List.mem_of_mem_drop member)) (.inl ?_)
  rw [← List.length_pos_iff, List.length_take]
  omega

/-- The digits before and after the point write the decimal. -/
theorem positionalText_writes (decimal : Scaled) :
    ∃ whole fraction : List Char, IsMantissa whole fraction (positionalText [] decimal) ∧
      (digitsValue (whole ++ fraction) : ℚ) * 10 ^ (0 - (fraction.length : Int)) =
        decimal.digits * 10 ^ decimal.exponent := by
  have digits : ∀ digit ∈ digitsOf decimal.digits, isDigit digit = true :=
    fun _ member => isDigit_of_mem_digitsOf member
  unfold positionalText
  simp only []
  split
  · next positive =>
      obtain ⟨zeros, same⟩ := Int.eq_ofNat_of_zero_le positive
      refine ⟨digitsOf decimal.digits ++ List.replicate decimal.exponent.toNat '0', [], ?_, ?_⟩
      · rw [List.append_nil]
        refine .whole ?_ (List.append_ne_nil_of_left_ne_nil (digitsOf_ne_nil _) _)
        intro digit member
        exact (List.mem_append.mp member).elim (digits digit) isDigit_of_mem_zeros
      · rw [List.append_nil, digitsValue_append_zeros, digitsValue_digitsOf, same]
        simp
  · next negative =>
      have places : decimal.exponent = -(decimal.exponent.natAbs : Int) := by omega
      generalize decimal.exponent.natAbs = count at places ⊢
      generalize padding : padLeftZero (count + 1) (digitsOf decimal.digits) = padded
      have all : ∀ digit ∈ padded, isDigit digit = true := by
        rw [← padding]
        intro digit member
        exact (List.mem_append.mp member).elim isDigit_of_mem_zeros (digits digit)
      have long : count < padded.length := by
        rw [← padding, padLeftZero, List.length_append, List.length_replicate]
        omega
      have fraction : padded.length - (padded.length - count) = count := by omega
      refine ⟨_, _, isMantissa_pointed all long, ?_⟩
      rw [List.take_append_drop, List.length_drop, fraction, places, zero_sub, ← padding,
        padLeftZero, digitsValue_zeros_append, digitsValue_digitsOf]

theorem isSign_signText (negative : Bool) : IsSign negative (signText negative) := by
  cases negative with
  | true => exact .minus
  | false => exact .none

theorem decimalFloat_zero {negative : Bool} {exponent power : Int}
    (canonical : Canonical 0 exponent) :
    decimalFloat negative 0 power = Float.ofBits (UInt64.ofNat (doubleBits negative 0 exponent)) := by
  have least : exponent = -1074 := canonical.normal.resolve_left (by decide)
  rw [least]
  cases negative <;> rfl

theorem ofBits_doubleBits {value : Float} {negative : Bool} {significand : Nat} {exponent : Int}
    (finite : Magnitude.ofFloat value = .finite negative significand exponent) :
    Float.ofBits (UInt64.ofNat (doubleBits negative significand exponent)) = value := by
  rw [← (canonical_of_ofFloat finite).2, UInt64.ofNat_toNat, Float.ofBits_toBits]

theorem toFloat_of_ofFloat {value : Float} {negative : Bool} {significand digits : Nat}
    {exponent power : Int}
    (finite : Magnitude.ofFloat value = .finite negative significand exponent)
    (same : (digits : ℚ) * 10 ^ power =
      (shortest .awayFromZero significand exponent).digits *
        10 ^ (shortest .awayFromZero significand exponent).exponent) :
    (Literal.decimal negative digits power).toFloat = value := by
  have canonical := (canonical_of_ofFloat finite).1
  rw [toFloat, ← ofBits_doubleBits finite]
  by_cases zero : significand = 0
  · subst zero
    obtain rfl : digits = 0 := by
      have ten : (10 : ℚ) ^ power ≠ 0 := by positivity
      simpa [shortest, ten] using same
    exact decimalFloat_zero canonical
  · apply decimalFloat_of_holds negative canonical zero
    rw [same]
    exact shortest_holds canonical zero

theorem exists_of_isFinite {value : Float} (finite : isFinite value = true) :
    ∃ negative significand exponent,
      Magnitude.ofFloat value = .finite negative significand exponent := by
  unfold isFinite at finite
  cases magnitude : Magnitude.ofFloat value with
  | finite negative significand exponent => exact ⟨_, _, _, rfl⟩
  | _ =>
      rw [magnitude] at finite
      cases finite

/-- The text of a finite double is a literal of the same double. -/
theorem plainText_writes {value : Float} (finite : isFinite value = true) :
    ∃ literal, IsLiteral literal (plainText value) ∧ literal.toFloat = value := by
  rcases exists_of_isFinite finite with ⟨negative, significand, exponent, magnitude⟩
  rcases positionalText_writes (shortest .awayFromZero significand exponent) with
    ⟨whole, fraction, mantissa, same⟩
  have isDecimal : IsDecimal negative _ _ := .parts mantissa .none
  rw [List.append_nil] at isDecimal
  refine ⟨_, ?_, toFloat_of_ofFloat magnitude same⟩
  rw [plainText, magnitude]
  exact .signed (isSign_signText negative) (.inl isDecimal)

theorem solid_of_isDigit {character : Char} (digit : isDigit character = true) :
    isBlank character = false ∧ character ≠ ',' := by
  have lower : '0'.toNat ≤ character.toNat := (isDigit_iff.mp digit).1
  have upper : character.toNat ≤ '9'.toNat := (isDigit_iff.mp digit).2
  have zero : '0'.toNat = 48 := rfl
  have nine : '9'.toNat = 57 := rfl
  constructor
  · simp [isBlank]
    omega
  · rintro rfl
    cases digit

/-- Neither a blank nor a comma is in the text of a finite double. -/
theorem plainText_solid {value : Float} (finite : isFinite value = true) :
    ∀ character ∈ plainText value, isBlank character = false ∧ character ≠ ',' := by
  rcases exists_of_isFinite finite with ⟨negative, significand, exponent, magnitude⟩
  rcases positionalText_writes (shortest .awayFromZero significand exponent) with
    ⟨whole, fraction, mantissa, -⟩
  rw [plainText, magnitude]
  intro character member
  rcases List.mem_append.mp member with sign | member
  · cases negative with
    | true =>
        rw [List.mem_singleton.mp sign]
        decide
    | false => cases sign
  · rcases mantissa.mem member with digit | rfl
    · exact solid_of_isDigit digit
    · decide

/-- Reading what was written gives every finite double back. -/
theorem readFloat_plainText {value : Float} (finite : isFinite value = true) :
    readFloat (plainText value) = .ok value := by
  rcases plainText_writes finite with ⟨literal, isLiteral, same⟩
  rw [readFloat, Literal.read_eq_ok_iff.mpr isLiteral, ← same]
  rfl

end ExportWatch.Decimal

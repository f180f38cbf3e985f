import ExportWatch.Proofs.Decimal.Whole
import ExportWatch.Proofs.Text.Cut
import ExportWatch.Proofs.Text.Pad
import ExportWatch.Time.Span

/-! What the clock shows of a span: its whole milliseconds, in fields of digits. And spans of whole
seconds from doubles. -/

namespace ExportWatch.Span

open Decimal Text

/-- The digits of each field of a clock. -/
structure Fields where
  hours : List Char
  minutes : List Char
  seconds : List Char
  milliseconds : List Char

namespace Fields

def text (fields : Fields) : List Char :=
  fields.hours ++ ':' :: (fields.minutes ++ ':' :: (fields.seconds ++ '.' :: fields.milliseconds))

/-- In milliseconds. -/
def value (fields : Fields) : Nat :=
  ((digitsValue fields.hours * 60 + digitsValue fields.minutes) * 60 +
    digitsValue fields.seconds) * 1000 + digitsValue fields.milliseconds

/-- Only the hours may have more digits than they are given places. -/
structure Valid (fields : Fields) : Prop where
  hours : ∀ digit ∈ fields.hours, isDigit digit = true
  hours_length : 2 ≤ fields.hours.length
  minutes : IsNumber 2 fields.minutes
  minutes_lt : digitsValue fields.minutes < 60
  seconds : IsNumber 2 fields.seconds
  seconds_lt : digitsValue fields.seconds < 60
  milliseconds : IsNumber 3 fields.milliseconds
  milliseconds_lt : digitsValue fields.milliseconds < 1000

/-- A text is read in one way only. -/
theorem eq_of_text {first second : Fields} (valid : first.Valid) (otherValid : second.Valid)
    (same : first.text = second.text) : first = second := by
  rcases eq_of_marked (not_mem_digits rfl valid.hours) (not_mem_digits rfl otherValid.hours) same
    with ⟨hours, same⟩
  rcases eq_of_marked (not_mem_digits rfl valid.minutes.all)
    (not_mem_digits rfl otherValid.minutes.all) same with ⟨minutes, same⟩
  rcases eq_of_marked (not_mem_digits rfl valid.seconds.all)
    (not_mem_digits rfl otherValid.seconds.all) same with ⟨seconds, milliseconds⟩
  cases first
  rw [mk.injEq]
  exact ⟨hours, minutes, seconds, milliseconds⟩

/-- What a clock shows after so many milliseconds. -/
def ofMilliseconds (total : Nat) : Fields where
  hours := padLeftZero 2 (digitsOf (total / 1000 / 3600))
  minutes := padLeftZero 2 (digitsOf (total / 1000 / 60 % 60))
  seconds := padLeftZero 2 (digitsOf (total / 1000 % 60))
  milliseconds := padLeftZero 3 (digitsOf (total % 1000))

theorem value_ofMilliseconds (total : Nat) : (ofMilliseconds total).value = total := by
  simp only [value, ofMilliseconds, digitsValue_padLeftZero]
  omega

theorem valid_ofMilliseconds (total : Nat) : (ofMilliseconds total).Valid where
  hours := fun _ member => isDigit_of_mem_padLeftZero (fun _ => isDigit_of_mem_digitsOf) member
  hours_length := (le_max_left _ _).trans_eq (length_padLeftZero _ _).symm
  minutes := isNumber_padLeftZero (by decide) (by omega)
  minutes_lt := by
    rw [ofMilliseconds, digitsValue_padLeftZero]
    omega
  seconds := isNumber_padLeftZero (by decide) (by omega)
  seconds_lt := by
    rw [ofMilliseconds, digitsValue_padLeftZero]
    omega
  milliseconds := isNumber_padLeftZero (by decide) (by omega)
  milliseconds_lt := by
    rw [ofMilliseconds, digitsValue_padLeftZero]
    omega

end Fields

theorem clock_eq_text (span : Span) :
    span.clock = (Fields.ofMilliseconds span.milliseconds).text := by
  simp only [clock, Fields.text, Fields.ofMilliseconds, List.append_assoc, List.cons_append]

/-- The clock shows the whole milliseconds of a span and nothing else. -/
theorem clock_eq_iff {first second : Span} :
    first.clock = second.clock ↔ first.milliseconds = second.milliseconds := by
  constructor
  · intro same
    rw [clock_eq_text, clock_eq_text] at same
    have fields := Fields.eq_of_text (Fields.valid_ofMilliseconds first.milliseconds)
      (Fields.valid_ofMilliseconds second.milliseconds) same
    rw [← Fields.value_ofMilliseconds first.milliseconds, fields, Fields.value_ofMilliseconds]
  · intro same
    rw [clock_eq_text, same, clock_eq_text]

/-! Whole seconds. -/

theorem milliseconds_ofSeconds (seconds : Nat) :
    (ofSeconds seconds).milliseconds = seconds * 1000 := by
  have unit : nanosecondsPerSecond = 1000 * nanosecondsPerMillisecond := rfl
  rw [milliseconds, ofSeconds, unit, ← Nat.mul_assoc]
  exact Nat.mul_div_cancel _ (by decide)

theorem roundQuotient_mul (tie : Tie) (whole : Nat) {denominator : Nat}
    (positive : 0 < denominator) : tie.roundQuotient (whole * denominator) denominator = whole := by
  simp only [Tie.roundQuotient]
  rw [Nat.mul_mod_left, Nat.mul_zero, if_pos positive, Nat.mul_div_cancel _ positive]

/-- A whole number of seconds is a span as it is. -/
theorem ofFloatSeconds?_wholeFloat {seconds : Nat} (small : seconds < 2 ^ 53) :
    ofFloatSeconds? (wholeFloat seconds) = some (ofSeconds seconds) := by
  rcases Nat.eq_zero_or_pos seconds with rfl | filled
  · decide +kernel
  · have size : seconds.log2 < 53 := (Nat.log2_lt filled.ne').mpr small
    have above : powerAbove 2 ((seconds.log2 : Int) - 52) = 1 := by
      rw [powerAbove, Int.toNat_of_nonpos (by omega)]
    have below : powerBelow 2 ((seconds.log2 : Int) - 52) = 2 ^ (52 - seconds.log2) := by
      rw [powerBelow, Nat.pow_eq]
      congr 1
      omega
    have bounded : seconds * nanosecondsPerSecond < secondsLimit * nanosecondsPerSecond :=
      Nat.mul_lt_mul_of_pos_right (small.trans (by decide)) (by decide)
    rw [ofFloatSeconds?, ofFloat_wholeFloat filled small]
    simp only [Bool.false_and, Bool.false_eq_true, if_false]
    rw [above, below, Nat.mul_one, Nat.mul_right_comm, roundQuotient_mul _ _ (Nat.two_pow_pos _)]
    exact if_pos bounded

end ExportWatch.Span

import ExportWatch.Decimal.Thousands
import ExportWatch.Proofs.Decimal.Nearest
import ExportWatch.Proofs.Decimal.ReadBack
import ExportWatch.Proofs.Text.Cut
import Mathlib

/-! Numbers in groups of three digits. What is written is the whole number that the double rounds
to, a half away from zero, with all of its digits and a comma behind every group but the last. -/

namespace ExportWatch.Decimal

open Text

/-! The number that a finite double is, and the whole number it rounds to. -/

def Magnitude.number : Magnitude → ℚ
  | finite negative significand exponent =>
      (if negative then -1 else 1) * (significand * (2 : ℚ) ^ exponent)
  | _ => 0

def numberOf (value : Float) : ℚ :=
  (Magnitude.ofFloat value).number

/-- The nearest whole number, and of two that are equally near the one away from zero. -/
def roundedAway (number : ℚ) : ℤ :=
  if number < 0 then ⌈number - 1 / 2⌉ else ⌊number + 1 / 2⌋

example : roundedAway (5 / 2) = 3 ∧ roundedAway (-5 / 2) = -3 ∧ roundedAway (-2 / 5) = 0 := by
  decide +kernel

theorem roundQuotient_awayFromZero {numerator denominator : Nat} (positive : 0 < denominator) :
    Tie.awayFromZero.roundQuotient numerator denominator =
      (2 * numerator + denominator) / (2 * denominator) := by
  have division := Nat.div_add_mod numerator denominator
  have small := Nat.mod_lt numerator positive
  rw [Nat.mul_comm] at division
  unfold Tie.roundQuotient
  simp only []
  generalize numerator / denominator = whole at division ⊢
  generalize numerator % denominator = rest at division small ⊢
  symm
  split
  · apply Nat.div_eq_of_lt_le <;> linarith
  · split
    · apply Nat.div_eq_of_lt_le <;> linarith
    · apply Nat.div_eq_of_lt_le <;> linarith

theorem roundQuotient_eq_floor {numerator denominator : Nat} (positive : 0 < denominator) :
    (Tie.awayFromZero.roundQuotient numerator denominator : ℤ) =
      ⌊(numerator : ℚ) / denominator + 1 / 2⌋ := by
  have size : (denominator : ℚ) ≠ 0 := Nat.cast_ne_zero.mpr (Nat.ne_of_gt positive)
  have quotient : (numerator : ℚ) / denominator + 1 / 2 =
      ((2 * numerator + denominator : Nat) : ℚ) / (2 * denominator : Nat) := by
    push_cast
    field_simp
  rw [quotient, Rat.floor_natCast_div_natCast, roundQuotient_awayFromZero positive, Int.natCast_div]

/-- The size of a double, rounded. -/
def wholeSize (significand : Nat) (exponent : Int) : Nat :=
  Tie.awayFromZero.roundQuotient (significand * powerAbove 2 exponent) (powerBelow 2 exponent)

theorem wholeSize_eq_floor (significand : Nat) (exponent : Int) :
    (wholeSize significand exponent : ℤ) = ⌊(significand : ℚ) * 2 ^ exponent + 1 / 2⌋ := by
  have below : (powerBelow 2 exponent : ℚ) ≠ 0 := powerBelow_ne_zero (by decide) exponent
  rw [wholeSize, roundQuotient_eq_floor (powerBelow_pos (by decide) exponent), Nat.cast_mul,
    powerAbove_eq (by decide), ← mul_assoc, mul_div_cancel_right₀ _ below, Nat.cast_ofNat]

theorem roundedAway_number (negative : Bool) (significand : Nat) (exponent : Int) :
    roundedAway (Magnitude.finite negative significand exponent).number =
      if negative then -(wholeSize significand exponent : ℤ)
      else wholeSize significand exponent := by
  have size : (0 : ℚ) ≤ significand * 2 ^ exponent := by positivity
  rw [wholeSize_eq_floor, Magnitude.number]
  generalize (significand : ℚ) * 2 ^ exponent = number at size ⊢
  cases negative with
  | false =>
      simp only [Bool.false_eq_true, if_false, one_mul]
      rw [roundedAway, if_neg (not_lt.mpr size)]
  | true =>
      simp only [if_true, neg_one_mul]
      rcases size.eq_or_lt with rfl | positive
      · norm_num [roundedAway]
      · have mirrored : -number - 1 / 2 = -(number + 1 / 2) := by ring
        rw [roundedAway, if_pos (neg_neg_iff_pos.mpr positive), mirrored, Int.ceil_neg]

/-- The largest double has 309 digits. -/
theorem wholeSize_lt {significand : Nat} {exponent : Int}
    (canonical : Canonical significand exponent) :
    wholeSize significand exponent < 10 ^ 309 := by
  have small : (significand : ℚ) ≤ 2 ^ 53 := by exact_mod_cast canonical.small.le
  have largest : (2 : Nat) ^ 1024 + 1 ≤ 10 ^ 309 := by decide +kernel
  have bounded : (significand : ℚ) * 2 ^ exponent ≤ 2 ^ 1024 := by
    calc
      (significand : ℚ) * 2 ^ exponent ≤ 2 ^ 53 * 2 ^ (971 : ℤ) :=
          mul_le_mul small (zpow_le_zpow_right₀ (by norm_num) canonical.greatest) (by positivity)
            (by positivity)
      _ = 2 ^ (1024 : ℤ) := (zpow_add₀ (by decide) (53 : Nat) 971).symm
      _ = 2 ^ 1024 := zpow_natCast 2 1024
  have rounded : (wholeSize significand exponent : ℤ) < (10 ^ 309 : Nat) := by
    rw [wholeSize_eq_floor, Int.floor_lt, Int.cast_natCast]
    calc
      (significand : ℚ) * 2 ^ exponent + 1 / 2 < 2 ^ 1024 + 1 :=
          add_lt_add_of_le_of_lt bounded (by norm_num)
      _ ≤ (10 ^ 309 : Nat) := by exact_mod_cast largest
  exact Int.ofNat_lt.mp rounded

/-! Groups. -/

/-- Digits with commas between groups of three, of which only the first may be shorter. -/
structure Grouped (digits text : List Char) : Prop where
  digits_eq : text.filter (· ≠ ',') = digits
  first : ∀ group ∈ (parts ',' text).head?, 1 ≤ group.length ∧ group.length ≤ 3
  others : ∀ group ∈ (parts ',' text).tail, group.length = 3

theorem filter_groupFrom {digits : List Char} (plain : ',' ∉ digits) :
    (groupFrom digits).filter (· ≠ ',') = digits := by
  induction digits with
  | nil => rfl
  | cons head tail induction =>
      rw [List.mem_cons, not_or] at plain
      have kept : head ≠ ',' := Ne.symm plain.1
      rw [groupFrom]
      split
      · rw [List.filter_cons_of_pos (by simpa using kept), List.filter_cons_of_neg (by decide),
          induction plain.2]
      · rw [List.filter_cons_of_pos (by simpa using kept), induction plain.2]

/-- The groups are counted from the end, so the length of the digits tells how long the first one
is. -/
theorem parts_groupFrom {digits : List Char} (filled : digits ≠ []) (plain : ',' ∉ digits) :
    ∃ first others, parts ',' (groupFrom digits) = first :: others ∧
      first.length = (digits.length - 1) % 3 + 1 ∧ ∀ group ∈ others, group.length = 3 := by
  induction digits with
  | nil => contradiction
  | cons head tail induction =>
      rw [List.mem_cons, not_or] at plain
      have bare : ',' ∉ [head] := by simpa using plain.1
      by_cases last : tail = []
      · refine ⟨[head], [], ?_, ?_, nofun⟩
        · rw [last]
          exact parts_of_not_mem bare
        · rw [last]
          rfl
      · rcases induction last plain.2 with ⟨first, others, groups, length, three⟩
        have longer : 0 < tail.length := List.length_pos_iff.mpr last
        rw [groupFrom]
        split
        · next complete =>
            simp only [Bool.and_eq_true, decide_eq_true_eq] at complete
            refine ⟨[head], first :: others, ?_, ?_, ?_⟩
            · rw [← List.singleton_append, parts_append, groups, parts_of_not_mem bare]
              rfl
            · rw [List.length_singleton, List.length_cons]
              omega
            · rw [List.forall_mem_cons]
              exact ⟨by omega, three⟩
        · next incomplete =>
            have rest : tail.length % 3 ≠ 0 := by
              intro complete
              simp [complete, last] at incomplete
            refine ⟨head :: first, others, ?_, ?_, three⟩
            · rw [← List.singleton_append, parts_append_left bare groups]
              rfl
            · rw [List.length_cons, List.length_cons, length]
              omega

theorem grouped_groupFrom {digits : List Char} (filled : digits ≠ []) (plain : ',' ∉ digits) :
    Grouped digits (groupFrom digits) := by
  rcases parts_groupFrom filled plain with ⟨first, others, groups, length, three⟩
  refine ⟨filter_groupFrom plain, ?_, ?_⟩
  · rw [groups]
    rintro group ⟨⟩
    omega
  · rw [groups]
    exact three

theorem grouped_groupThousands (value : Nat) : Grouped (digitsOf value) (groupThousands value) := by
  refine grouped_groupFrom (digitsOf_ne_nil value) ?_
  intro comma
  cases isDigit_of_mem_digitsOf comma

/-- A finite double is written as the whole number it rounds to, with a minus sign exactly if that
number is negative, and with commas between groups of three digits. -/
theorem thousands_writes_rounded {value : Float} (finite : isFinite value = true) :
    ∃ text, (thousands value).toList =
        (if roundedAway (numberOf value) < 0 then ['-'] else []) ++ text ∧
      Grouped (digitsOf (roundedAway (numberOf value)).natAbs) text ∧
      (digitsOf (roundedAway (numberOf value)).natAbs).length ≤ 309 := by
  rcases exists_of_isFinite finite with ⟨negative, significand, exponent, magnitude⟩
  have canonical := (canonical_of_ofFloat magnitude).1
  have written : (thousands value).toList =
      signText (negative && wholeSize significand exponent != 0) ++
        groupThousands (wholeSize significand exponent) := by
    rw [thousands, magnitude, String.toList_ofList]
    rfl
  have length := length_digitsOf_le (by decide) (wholeSize_lt canonical)
  rw [written, numberOf, magnitude, roundedAway_number]
  generalize wholeSize significand exponent = whole at length ⊢
  have size : (if negative then -(whole : ℤ) else whole).natAbs = whole := by
    split
    · rw [Int.natAbs_neg, Int.natAbs_natCast]
    · exact Int.natAbs_natCast whole
  have sign : signText (negative && whole != 0) =
      if (if negative then -(whole : ℤ) else whole) < 0 then ['-'] else [] := by
    cases negative with
    | false => simp [signText]
    | true => by_cases zero : whole = 0 <;> simp [signText, zero, Nat.pos_iff_ne_zero]
  rw [size, sign]
  exact ⟨_, rfl, grouped_groupThousands whole, length⟩

/-- A half is rounded away from zero on the negative side too. -/
theorem thousands_writes_rounded_of_half :
    isFinite (-234567.5) = true ∧ ∃ text, (thousands (-234567.5)).toList = '-' :: text ∧
      Grouped "234568".toList text := by
  have finite : isFinite (-234567.5) = true := by decide
  have rounded : roundedAway (numberOf (-234567.5)) = -234568 := by decide +kernel
  rcases thousands_writes_rounded finite with ⟨text, written, grouped, -⟩
  rw [rounded] at written grouped
  exact ⟨finite, text, written, grouped⟩

end ExportWatch.Decimal

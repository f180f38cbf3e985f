import ExportWatch.Text.Digit
import Mathlib.Data.List.TakeWhile
import Mathlib.Data.String.Basic

/-! Numbers written with digits and read again. -/

namespace ExportWatch.Text

theorem isDigit_of_mem_digitsOf {value : Nat} {digit : Char} (member : digit ∈ digitsOf value) :
    isDigit digit = true :=
  Nat.isDigit_of_mem_toDigits (by decide) (by decide) member

theorem digitsOf_ne_nil (value : Nat) : digitsOf value ≠ [] :=
  Nat.toDigits_ne_nil

theorem length_digitsOf_le {value count : Nat} (filled : 0 < count) (small : value < 10 ^ count) :
    (digitsOf value).length ≤ count :=
  (Nat.length_toDigits_le_iff (by decide) filled).mpr small

theorem digitsValue_digitsOf (value : Nat) : digitsValue (digitsOf value) = value := by
  have read := Nat.ofDigitChars_ten_toDigits (n := value)
  rw [Nat.ofDigitChars_eq_foldl] at read
  exact read

theorem isDigit_of_digitsOf_eq {value : Nat} {head : Char} {tail : List Char}
    (written : digitsOf value = head :: tail) : isDigit head = true := by
  apply isDigit_of_mem_digitsOf
  rw [written]
  exact List.mem_cons_self

theorem not_mem_digits {mark : Char} {digits : List Char} (noDigit : isDigit mark = false)
    (all : ∀ digit ∈ digits, isDigit digit = true) : mark ∉ digits := by
  intro member
  rw [all mark member] at noDigit
  cases noDigit

/-- Only zero is written with a zero in front. -/
theorem head_digitsOf {value : Nat} (positive : 0 < value) :
    (digitsOf value).head? ≠ some '0' := by
  induction value using Nat.strongRecOn with
  | ind value induction =>
      by_cases small : value < 10
      · have digits : ∀ digit < 10, 0 < digit → [Nat.digitChar digit].head? ≠ some '0' := by
          decide
        rw [digitsOf, Nat.toDigits_of_lt_base small]
        exact digits value small positive
      · have shorter := induction (value / 10) (by omega) (by omega)
        rw [digitsOf, Nat.toDigits_of_base_le (by decide) (by omega),
          List.head?_append, Option.or_of_isSome (by simp [Nat.toDigits_ne_nil])]
        exact shorter

/-- What follows digits does not go on with one. -/
def EndsDigits (rest : List Char) : Prop :=
  ∀ head ∈ rest.head?, isDigit head = false

theorem spanDigits_append (text : List Char) {rest : List Char}
    (ends : (spanDigits text).2 = [] → EndsDigits rest) :
    spanDigits (text ++ rest) = ((spanDigits text).1, (spanDigits text).2 ++ rest) := by
  induction text with
  | nil =>
      cases rest with
      | nil => rfl
      | cons head tail =>
          have other : isDigit head = false := ends rfl head rfl
          simp [spanDigits, other]
  | cons head tail induction =>
      cases digit : isDigit head with
      | false => simp [spanDigits, digit]
      | true =>
          simp only [spanDigits, List.cons_append, List.takeWhile_cons, List.dropWhile_cons, digit,
            if_true] at ends induction ⊢
          rw [Prod.mk.injEq] at induction ⊢
          exact ⟨congrArg _ (induction ends).1, (induction ends).2⟩

theorem spanDigits_of_all {digits : List Char} (all : ∀ digit ∈ digits, isDigit digit = true) :
    spanDigits digits = (digits, []) := by
  rw [spanDigits, List.takeWhile_eq_self_iff.mpr all, List.dropWhile_eq_nil_iff.mpr all]

/-! Numbers of a given length. Their texts are in the same order as their values. -/

structure IsNumber (count : Nat) (digits : List Char) : Prop where
  length_eq : digits.length = count
  all : ∀ digit ∈ digits, isDigit digit = true

theorem isNumber_iff {count : Nat} {digits : List Char} :
    IsNumber count digits ↔ digits.length = count ∧ digits.all isDigit = true := by
  rw [List.all_eq_true]
  exact ⟨fun number => ⟨number.length_eq, number.all⟩, fun parts => ⟨parts.1, parts.2⟩⟩

instance (count : Nat) (digits : List Char) : Decidable (IsNumber count digits) :=
  decidable_of_iff _ isNumber_iff.symm

theorem takeDigits_append {count : Nat} {digits : List Char} (number : IsNumber count digits)
    (rest : List Char) :
    takeDigits count (digits ++ rest) = some (digitsValue digits, rest) := by
  have first : (digits ++ rest).take count = digits := List.take_left' number.length_eq
  have complete : (decide (digits.length = count) && digits.all isDigit) = true := by
    rw [Bool.and_eq_true, decide_eq_true_iff]
    exact isNumber_iff.mp number
  simp only [takeDigits]
  rw [first, if_pos complete, List.drop_left' number.length_eq]

theorem takeDigits_eq_some_iff {count value : Nat} {text rest : List Char} :
    takeDigits count text = some (value, rest) ↔
      ∃ digits, IsNumber count digits ∧ text = digits ++ rest ∧ value = digitsValue digits := by
  constructor
  · intro taken
    simp only [takeDigits] at taken
    split at taken
    · next complete =>
        cases taken
        rw [Bool.and_eq_true, decide_eq_true_iff] at complete
        exact ⟨text.take count, isNumber_iff.mpr complete, (List.take_append_drop _ _).symm, rfl⟩
    · cases taken
  · intro written
    rcases written with ⟨digits, number, rfl, rfl⟩
    exact takeDigits_append number rest

theorem isDigit_iff {character : Char} :
    isDigit character = true ↔ '0' ≤ character ∧ character ≤ '9' := by
  rw [isDigit, Bool.and_eq_true, decide_eq_true_iff, decide_eq_true_iff]

theorem digitValue_le {digit : Char} (isDigit : isDigit digit = true) : digitValue digit ≤ 9 := by
  have upper : digit.toNat ≤ '9'.toNat := (isDigit_iff.mp isDigit).2
  have nine : '9'.toNat = 57 := rfl
  have zero : '0'.toNat = 48 := rfl
  rw [digitValue]
  omega

theorem digitValue_lt {first second : Char} (firstDigit : isDigit first = true)
    (less : first < second) : digitValue first < digitValue second := by
  have lower : '0'.toNat ≤ first.toNat := (isDigit_iff.mp firstDigit).1
  have smaller : first.toNat < second.toNat := less
  rw [digitValue, digitValue]
  omega

section Order

variable {count : Nat} {first second : List Char}

/-- What comes first counts more than all that follows. -/
theorem foldl_digits_lt (same : first.length = second.length)
    (all : ∀ digit ∈ first, isDigit digit = true) {smaller larger : Nat}
    (less : smaller < larger) :
    first.foldl (fun value digit => 10 * value + digitValue digit) smaller <
      second.foldl (fun value digit => 10 * value + digitValue digit) larger := by
  induction first generalizing second smaller larger with
  | nil =>
      cases second with
      | nil => exact less
      | cons head tail => cases same
  | cons head tail induction =>
      cases second with
      | nil => cases same
      | cons otherHead otherTail =>
          have digit := digitValue_le (all head List.mem_cons_self)
          apply induction (Nat.succ_inj.mp same) fun digit member =>
            all digit (List.mem_cons_of_mem _ member)
          change 10 * smaller + digitValue head < 10 * larger + digitValue otherHead
          omega

theorem foldl_digits_lt_of_lt (same : first.length = second.length)
    (all : ∀ digit ∈ first, isDigit digit = true) (less : first < second) (value : Nat) :
    first.foldl (fun value digit => 10 * value + digitValue digit) value <
      second.foldl (fun value digit => 10 * value + digitValue digit) value := by
  induction first generalizing second value with
  | nil =>
      cases second with
      | nil => cases less
      | cons head tail => cases same
  | cons head tail induction =>
      cases second with
      | nil => cases same
      | cons otherHead otherTail =>
          have tails : tail.length = otherTail.length := Nat.succ_inj.mp same
          have tailAll : ∀ digit ∈ tail, isDigit digit = true := fun digit member =>
            all digit (List.mem_cons_of_mem _ member)
          rcases List.cons_lt_cons_iff.mp less with heads | ⟨rfl, later⟩
          · apply foldl_digits_lt tails tailAll
            have digits := digitValue_lt (all head List.mem_cons_self) heads
            change 10 * value + digitValue head < 10 * value + digitValue otherHead
            omega
          · exact induction tails tailAll later _

theorem append_lt_append {rest others : List Char} (same : first.length = second.length)
    (less : first < second) : first ++ rest < second ++ others := by
  induction first generalizing second with
  | nil =>
      cases second with
      | nil => cases less
      | cons head tail => cases same
  | cons head tail induction =>
      cases second with
      | nil => cases same
      | cons otherHead otherTail =>
          rw [List.cons_append, List.cons_append, List.cons_lt_cons_iff]
          rcases List.cons_lt_cons_iff.mp less with heads | ⟨equal, later⟩
          · exact .inl heads
          · exact .inr ⟨equal, induction (Nat.succ_inj.mp same) later⟩

namespace IsNumber

variable (firstNumber : IsNumber count first) (secondNumber : IsNumber count second)
include firstNumber secondNumber

theorem value_lt_iff : digitsValue first < digitsValue second ↔ first < second := by
  have same : first.length = second.length :=
    firstNumber.length_eq.trans secondNumber.length_eq.symm
  constructor
  · intro less
    rcases lt_trichotomy first second with smaller | rfl | larger
    · exact smaller
    · exact absurd less (lt_irrefl _)
    · exact absurd less (lt_asymm (foldl_digits_lt_of_lt same.symm secondNumber.all larger 0))
  · intro less
    exact foldl_digits_lt_of_lt same firstNumber.all less 0

theorem value_inj : digitsValue first = digitsValue second ↔ first = second := by
  rw [← not_iff_not, ← ne_eq, ← ne_eq, ne_iff_lt_or_gt, ne_iff_lt_or_gt,
    value_lt_iff firstNumber secondNumber, value_lt_iff secondNumber firstNumber]

/-- Where two numbers differ they decide the order, whatever follows them. -/
theorem append_lt {rest others : List Char} (le : digitsValue first ≤ digitsValue second)
    (later : first = second → rest < others) : first ++ rest < second ++ others := by
  rcases Nat.lt_or_eq_of_le le with less | same
  · have lengths : first.length = second.length :=
      firstNumber.length_eq.trans secondNumber.length_eq.symm
    exact append_lt_append lengths ((value_lt_iff firstNumber secondNumber).mp less)
  · have equal := (value_inj firstNumber secondNumber).mp same
    rw [equal]
    exact List.Lex.append_left _ (later equal) _

end IsNumber

end Order

end ExportWatch.Text

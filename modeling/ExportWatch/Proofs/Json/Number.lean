import ExportWatch.Proofs.Json.Numeral
import ExportWatch.Proofs.Text.Pad

/-! Numbers are read as the numbers that were written: whole numbers of a 64-bit word
always, doubles as long as reading their digits gives the double back. -/

namespace ExportWatch.Json

open Text Decimal

/-! Whole numbers. -/

/-- What a signed or an unsigned word of 64 bits holds. -/
def InWord (value : Int) : Prop :=
  -((Nat.pow 2 63 : Nat) : Int) ≤ value ∧ value < ((Nat.pow 2 64 : Nat) : Int)

theorem inWord_iff {value : Int} :
    InWord value ↔ -9223372036854775808 ≤ value ∧ value < 18446744073709551616 :=
  Iff.rfl

namespace Numeral

theorem le_foldl_digits (start : Nat) (digits : List Char) :
    start ≤ digits.foldl (fun value digit => 10 * value + digitValue digit) start := by
  induction digits generalizing start with
  | nil => exact Nat.le_refl start
  | cons head tail induction =>
      have later := induction (10 * start + digitValue head)
      rw [List.foldl_cons]
      omega

theorem absorb_of_fits {digits : List Char} {start : Nat}
    (fits : digits.foldl (fun value digit => 10 * value + digitValue digit) start ≤ word64Limit) :
    absorb start digits =
      (digits.foldl (fun value digit => 10 * value + digitValue digit) start, 0) := by
  induction digits generalizing start with
  | nil => rfl
  | cons head tail induction =>
      rw [List.foldl_cons] at fits ⊢
      have first := le_foldl_digits (10 * start + digitValue head) tail
      rw [absorb, if_pos (Nat.le_trans first fits), induction fits]

theorem absorb_digitsOf {size : Nat} (fits : size ≤ word64Limit) :
    absorb 0 (digitsOf size) = (size, 0) := by
  have read := digitsValue_digitsOf size
  rw [digitsValue] at read
  rw [absorb_of_fits (by rw [read]; exact fits), read]

theorem scanWhole_digitsOf (size : Nat) : scanWhole (digitsOf size) = .ok (digitsOf size, []) := by
  have digits : spanDigits (digitsOf size) = (digitsOf size, []) :=
    spanDigits_of_all fun _ member => isDigit_of_mem_digitsOf member
  have filled := digitsOf_ne_nil size
  unfold scanWhole
  simp only [digits]
  split
  · contradiction
  · next second others same =>
      have positive : 0 < size := by
        rcases Nat.eq_zero_or_pos size with rfl | positive
        · cases same
        · exact positive
      have leading := head_digitsOf positive
      rw [same] at leading
      exact absurd rfl leading
  · rfl

theorem splitSign_wholeText (value : Int) :
    splitSign (wholeText value) = (decide (value < 0), digitsOf value.natAbs) := by
  unfold wholeText signText
  by_cases negative : value < 0
  · simp [negative, splitSign]
  · cases written : digitsOf value.natAbs with
    | nil => exact absurd written (digitsOf_ne_nil _)
    | cons head tail =>
        have digit := isDigit_of_digitsOf_eq written
        have notMinus : head ≠ '-' := by
          rintro rfl
          cases digit
        simp [negative, splitSign, notMinus]

def ofWhole (value : Int) : Numeral :=
  ⟨decide (value < 0), digitsOf value.natAbs, [], none⟩

theorem scan_wholeText (value : Int) : scan (wholeText value) = .ok (ofWhole value, []) := by
  rw [scan_iff]
  have signed := splitSign_wholeText value
  refine ⟨by rw [signed]; rfl, [], [], ?_, rfl, rfl⟩
  rw [signed]
  exact scanWhole_digitsOf _

theorem value_ofWhole {value : Int} (inWord : InWord value) :
    (ofWhole value).value = .ok (.whole value) := by
  rw [inWord_iff] at inWord
  have fits : value.natAbs ≤ word64Limit := by
    simp only [word64Limit, Nat.pow_eq]
    omega
  unfold Numeral.value ofWhole
  simp only [absorb_digitsOf fits]
  generalize same : value.natAbs = size
  by_cases negative : value < 0
  · have small : size ≤ 2 ^ 63 := by omega
    have restored : -(size : Int) = value := by omega
    simp [negative, restored, Nat.pow_eq]
    omega
  · have restored : (size : Int) = value := by omega
    simp [negative, restored]

end Numeral

/-! Doubles. -/

/-- The double is written with digits that are read as the same double. -/
def ReadsBack (value : Float) : Prop :=
  decodeDocument decodeFloat (Value.real value).compact = .ok value

/-- What the text of a finite double may hold. -/
def isNumeralCharacter (character : Char) : Bool :=
  isDigit character || character = '.' || character = 'e' || character = '+' || character = '-'

/-- The text of a double without its sign: it begins with a digit and has a point or an
exponent. -/
structure RealShape (text : List Char) : Prop where
  begins : ∃ digit, text.head? = some digit ∧ isDigit digit = true
  characters : ∀ character ∈ text, isNumeralCharacter character = true
  marked : '.' ∈ text ∨ 'e' ∈ text

theorem isNumeralCharacter_of_isDigit {character : Char} (digit : isDigit character = true) :
    isNumeralCharacter character = true := by
  simp [isNumeralCharacter, digit]

theorem realShape_positional (decimal : Scaled) :
    RealShape (positionalText ".0".toList decimal) := by
  have digits : ∀ digit ∈ digitsOf decimal.digits, isDigit digit = true :=
    fun _ member => isDigit_of_mem_digitsOf member
  unfold positionalText
  simp only []
  split
  · cases written : digitsOf decimal.digits with
    | nil => exact absurd written (digitsOf_ne_nil _)
    | cons head tail =>
        rw [written] at digits
        refine ⟨⟨head, rfl, digits head List.mem_cons_self⟩, ?_, .inl (by simp)⟩
        intro character member
        rcases List.mem_append.mp member with member | mark
        · rcases List.mem_append.mp member with digit | zero
          · exact isNumeralCharacter_of_isDigit (digits character digit)
          · rw [List.eq_of_mem_replicate zero]
            rfl
        · have marks : ".0".toList.all isNumeralCharacter = true := by decide
          exact List.all_eq_true.mp marks character mark
  · next negative =>
      generalize padding : padLeftZero (decimal.exponent.natAbs + 1) (digitsOf decimal.digits) =
        padded
      have allDigits : ∀ character ∈ padded, isDigit character = true := by
        rw [← padding]
        exact fun _ member => isDigit_of_mem_padLeftZero digits member
      have wide : decimal.exponent.natAbs < padded.length := by
        rw [← padding]
        simp only [padLeftZero, List.length_append, List.length_replicate]
        omega
      refine ⟨?_, ?_, .inl (by simp)⟩
      · cases padded with
        | nil => simp at wide
        | cons head tail =>
            refine ⟨head, ?_, allDigits head List.mem_cons_self⟩
            obtain ⟨before, same⟩ : ∃ before,
                (head :: tail).length - decimal.exponent.natAbs = before + 1 :=
              ⟨(head :: tail).length - decimal.exponent.natAbs - 1, by omega⟩
            rw [same]
            rfl
      · intro character member
        rcases List.mem_append.mp member with before | after
        · exact isNumeralCharacter_of_isDigit (allDigits character (List.mem_of_mem_take before))
        · rcases List.mem_cons.mp after with rfl | after
          · rfl
          · exact isNumeralCharacter_of_isDigit (allDigits character (List.mem_of_mem_drop after))

theorem exponentText_characters {plus : Bool} {exponent : Int} {character : Char}
    (member : character ∈ exponentText plus exponent) : isNumeralCharacter character = true := by
  unfold exponentText at member
  rcases List.mem_cons.mp member with rfl | member
  · rfl
  · rcases List.mem_append.mp member with sign | digit
    · split at sign
      · rw [List.mem_singleton.mp sign]; rfl
      · split at sign
        · rw [List.mem_singleton.mp sign]; rfl
        · cases sign
    · exact isNumeralCharacter_of_isDigit (isDigit_of_mem_digitsOf digit)

theorem realShape_scientific (plus : Bool) (decimal : Scaled) :
    RealShape (scientificText plus decimal) := by
  have digits : ∀ digit ∈ digitsOf decimal.digits, isDigit digit = true :=
    fun _ member => isDigit_of_mem_digitsOf member
  have exponent : 'e' ∈ exponentText plus decimal.leading := by simp [exponentText]
  unfold scientificText
  simp only []
  split
  · next written => exact absurd written (digitsOf_ne_nil _)
  · next _ digit written =>
      rw [written] at digits
      refine ⟨⟨digit, rfl, digits digit List.mem_cons_self⟩, ?_,
        .inr (List.mem_append_right _ exponent)⟩
      intro character member
      rcases List.mem_append.mp member with mantissa | after
      · exact isNumeralCharacter_of_isDigit (digits character mantissa)
      · exact exponentText_characters after
  · next digit others _ written =>
      rw [written] at digits
      refine ⟨⟨digit, rfl, digits digit List.mem_cons_self⟩, ?_,
        .inr (List.mem_append_right _ exponent)⟩
      intro character member
      rcases List.mem_append.mp member with mantissa | after
      · rcases List.mem_cons.mp mantissa with rfl | mantissa
        · exact isNumeralCharacter_of_isDigit (digits character List.mem_cons_self)
        · rcases List.mem_cons.mp mantissa with rfl | mantissa
          · rfl
          · exact isNumeralCharacter_of_isDigit
              (digits character (List.mem_cons_of_mem _ mantissa))
      · exact exponentText_characters after

theorem realShape_finite (negative : Bool) (significand : Nat) (exponent : Int) :
    ∃ unsigned, RealShape unsigned ∧
      realStyle.finiteText negative significand exponent = signText negative ++ unsigned := by
  unfold Style.finiteText
  simp only []
  split
  · exact ⟨_, realShape_positional _, rfl⟩
  · exact ⟨_, realShape_scientific _ _, rfl⟩

end ExportWatch.Json

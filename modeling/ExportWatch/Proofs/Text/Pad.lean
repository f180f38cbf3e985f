import ExportWatch.Proofs.Text.Digit
import ExportWatch.Text.Pad

/-! Numbers with zeros around them, and numbers brought to a width. -/

namespace ExportWatch.Text

theorem digitsValue_append_zeros (digits : List Char) (count : Nat) :
    digitsValue (digits ++ List.replicate count '0') = digitsValue digits * 10 ^ count := by
  induction count with
  | zero => simp
  | succ count induction =>
      have last : digitsValue (digits ++ List.replicate count '0' ++ ['0']) =
          10 * digitsValue (digits ++ List.replicate count '0') := by
        rw [digitsValue, List.foldl_append, ← digitsValue]
        rfl
      rw [List.replicate_succ', ← List.append_assoc, last, induction, Nat.mul_left_comm,
        Nat.pow_succ']

theorem digitsValue_zeros_append (count : Nat) (digits : List Char) :
    digitsValue (List.replicate count '0' ++ digits) = digitsValue digits := by
  induction count with
  | zero => rfl
  | succ count induction =>
      rw [List.replicate_succ, List.cons_append, ← induction]
      rfl

theorem isDigit_of_mem_zeros {count : Nat} {character : Char}
    (member : character ∈ List.replicate count '0') : isDigit character = true := by
  rw [List.eq_of_mem_replicate member]
  rfl

theorem isDigit_of_mem_padLeftZero {width : Nat} {digits : List Char} {character : Char}
    (all : ∀ digit ∈ digits, isDigit digit = true)
    (member : character ∈ padLeftZero width digits) : isDigit character = true := by
  rcases List.mem_append.mp member with zero | given
  · exact isDigit_of_mem_zeros zero
  · exact all character given

theorem length_padLeftZero (width : Nat) (text : List Char) :
    (padLeftZero width text).length = max width text.length := by
  rw [padLeftZero, List.length_append, List.length_replicate]
  omega

theorem digitsValue_padLeftZero (width value : Nat) :
    digitsValue (padLeftZero width (digitsOf value)) = value := by
  rw [padLeftZero, digitsValue_zeros_append, digitsValue_digitsOf]

/-- A number that is not too long has the width. -/
theorem isNumber_padLeftZero {width value : Nat} (filled : 0 < width) (small : value < 10 ^ width) :
    IsNumber width (padLeftZero width (digitsOf value)) where
  length_eq := by
    rw [length_padLeftZero, Nat.max_eq_left (length_digitsOf_le filled small)]
  all := fun _ member => isDigit_of_mem_padLeftZero (fun _ => isDigit_of_mem_digitsOf) member

end ExportWatch.Text

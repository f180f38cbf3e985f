import ExportWatch.Text.Percent

/-! Different texts are different also when they are percent encoded: the bytes of a
text can be read from its encoding. -/

namespace ExportWatch.Text

def hexNumber (character : Char) : Nat :=
  (hexValue character).getD 0

/-- The bytes that an encoded text stands for. -/
def percentDecode : List Char → List UInt8
  | '%' :: high :: low :: rest =>
      UInt8.ofNat (hexNumber high * 16 + hexNumber low) :: percentDecode rest
  | head :: rest => String.utf8EncodeChar head ++ percentDecode rest
  | [] => []

theorem hexNumber_hexDigit : ∀ value < 16, hexNumber (hexDigit value) = value := by
  decide

theorem percentDecode_percentByte (byte : UInt8) (rest : List Char) :
    percentDecode (percentByte byte ++ rest) = byte :: percentDecode rest := by
  have small := byte.toNat_lt
  have restored : byte.toNat / 16 * 16 + byte.toNat % 16 = byte.toNat := by omega
  rw [percentByte, List.cons_append, List.cons_append, List.cons_append, percentDecode,
    hexNumber_hexDigit _ (by omega), hexNumber_hexDigit _ (by omega), restored]
  simp

theorem percentDecode_percentBytes (bytes : List UInt8) (rest : List Char) :
    percentDecode (bytes.flatMap percentByte ++ rest) = bytes ++ percentDecode rest := by
  induction bytes with
  | nil => rfl
  | cons head tail induction =>
      rw [List.flatMap_cons, List.append_assoc, percentDecode_percentByte, induction]
      rfl

variable {keeps : Char → Bool}

theorem percentDecode_percentEncode (notPercent : keeps '%' = false) (text : List Char) :
    percentDecode (percentEncode keeps text) = text.flatMap String.utf8EncodeChar := by
  induction text with
  | nil => rfl
  | cons head tail induction =>
      rw [percentEncode] at induction
      rw [percentEncode, List.flatMap_cons, List.flatMap_cons]
      cases kept : keeps head with
      | false =>
          rw [if_neg (by simp), percentCharacter, percentDecode_percentBytes, induction]
      | true =>
          have other : head ≠ '%' := by
            rintro rfl
            rw [notPercent] at kept
            cases kept
          rw [if_pos rfl, List.singleton_append, percentDecode.eq_2, induction]
          intro high low others same
          exact absurd same other

theorem percentEncode_injective (notPercent : keeps '%' = false) {first second : List Char}
    (same : percentEncode keeps first = percentEncode keeps second) : first = second := by
  have bytes := congrArg percentDecode same
  rw [percentDecode_percentEncode notPercent, percentDecode_percentEncode notPercent] at bytes
  apply String.ofList_injective
  rw [← String.toByteArray_inj, String.toByteArray_ofList, String.toByteArray_ofList,
    List.utf8Encode, List.utf8Encode, bytes]

/-! What an encoded text is made of. -/

theorem percentEncode_cons (head : Char) (tail : List Char) :
    percentEncode keeps (head :: tail) =
      (if keeps head then [head] else percentCharacter head) ++ percentEncode keeps tail :=
  List.flatMap_cons

theorem percentCharacter_eq_cons (character : Char) :
    ∃ rest, percentCharacter character = '%' :: rest := by
  rw [percentCharacter]
  cases bytes : String.utf8EncodeChar character with
  | nil => exact absurd bytes (by simp)
  | cons byte others => exact ⟨_, rfl⟩

theorem percentEncode_of_all {text : List Char}
    (all : ∀ character ∈ text, keeps character = true) : percentEncode keeps text = text := by
  induction text with
  | nil => rfl
  | cons head tail induction =>
      rw [List.forall_mem_cons] at all
      rw [percentEncode_cons, if_pos all.1, induction all.2, List.singleton_append]

theorem percentEncode_eq_self {text : List Char}
    (absent : '%' ∉ percentEncode keeps text) : percentEncode keeps text = text := by
  induction text with
  | nil => rfl
  | cons head tail induction =>
      rw [percentEncode_cons, List.mem_append, not_or] at absent
      rw [percentEncode_cons, induction absent.2]
      split
      · rfl
      · next notKept =>
          rcases percentCharacter_eq_cons head with ⟨rest, encoded⟩
          rw [if_neg notKept, encoded] at absent
          exact absurd List.mem_cons_self absent.1

theorem mem_percentCharacter {source character : Char}
    (member : character ∈ percentCharacter source) :
    character = '%' ∨ ∃ value < 16, character = hexDigit value := by
  rcases List.mem_flatMap.mp member with ⟨byte, -, member⟩
  have small := byte.toNat_lt
  rw [percentByte, List.mem_cons, List.mem_cons, List.mem_singleton] at member
  rcases member with mark | high | low
  · exact .inl mark
  · exact .inr ⟨byte.toNat / 16, by omega, high⟩
  · exact .inr ⟨byte.toNat % 16, by omega, low⟩

theorem mem_percentEncode {text : List Char} {character : Char}
    (member : character ∈ percentEncode keeps text) :
    keeps character = true ∨ character = '%' ∨ ∃ value < 16, character = hexDigit value := by
  rcases List.mem_flatMap.mp member with ⟨source, -, member⟩
  split at member
  · next kept => exact .inl (List.mem_singleton.mp member ▸ kept)
  · exact .inr (mem_percentCharacter member)

end ExportWatch.Text

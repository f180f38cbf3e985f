import ExportWatch.Proofs.Text.Percent
import ExportWatch.Url.Host
import Mathlib.Data.List.Flatten

/-! Percent decoding: what encoded characters stand for, and that texts which were not encoded
may stand for others too. -/

namespace ExportWatch.Host

open Text

/-- The bytes of a text as it is sent. -/
def bytesOf (text : List Char) : List UInt8 :=
  text.flatMap String.utf8EncodeChar

theorem toByteArray_ofList (text : List Char) :
    (String.ofList text).toByteArray = ⟨(bytesOf text).toArray⟩ := by
  rw [String.toByteArray_ofList]
  exact ByteArray.ext List.data_toByteArray

theorem bytesOf_injective {first second : List Char} (same : bytesOf first = bytesOf second) :
    first = second := by
  apply String.ofList_injective
  rw [← String.toByteArray_inj, toByteArray_ofList, toByteArray_ofList, same]

theorem decoded?_eq_some_iff {text source : List Char} :
    decoded? text = some source ↔ percentBytes text = bytesOf source := by
  have written := toByteArray_ofList source
  rw [decoded?, Option.map_eq_some_iff]
  constructor
  · rintro ⟨read, valid, rfl⟩
    rw [String.fromUTF8?] at valid
    split at valid
    · cases valid
      rw [String.ofList_toList] at written
      exact congrArg (fun bytes : ByteArray => bytes.data.toList) written
    · cases valid
  · intro same
    refine ⟨String.ofList source, ?_, String.toList_ofList⟩
    have valid := (String.ofList source).isValidUTF8
    rw [same, ← written, String.fromUTF8?, dif_pos valid]
    rfl

theorem percentBytes_cons {head : Char} (other : head ≠ '%') (tail : List Char) :
    percentBytes (head :: tail) = String.utf8EncodeChar head ++ percentBytes tail := by
  rw [percentBytes.eq_3]
  intro first second rest same
  exact absurd same other

theorem hexValue_hexDigit : ∀ value < 16, hexValue (hexDigit value) = some value := by
  decide

theorem percentBytes_percentByte (byte : UInt8) (rest : List Char) :
    percentBytes (percentByte byte ++ rest) = byte :: percentBytes rest := by
  have small := byte.toNat_lt
  have restored : 16 * (byte.toNat / 16) + byte.toNat % 16 = byte.toNat := by omega
  rw [percentByte, List.cons_append, List.cons_append, List.singleton_append, percentBytes,
    hexValue_hexDigit _ (by omega), hexValue_hexDigit _ (by omega)]
  simp [restored]

theorem percentBytes_percentCharacter (character : Char) (rest : List Char) :
    percentBytes (percentCharacter character ++ rest) =
      String.utf8EncodeChar character ++ percentBytes rest := by
  rw [percentCharacter]
  induction String.utf8EncodeChar character with
  | nil => rfl
  | cons byte bytes induction =>
      rw [List.flatMap_cons, List.append_assoc, percentBytes_percentByte, induction]
      rfl

/-- Encoding is undone, whatever else the text holds: a percent sign is itself encoded. -/
theorem decoded?_percentEncode {keeps : Char → Bool} (notPercent : keeps '%' = false)
    (text : List Char) : decoded? (percentEncode keeps text) = some text := by
  rw [decoded?_eq_some_iff]
  induction text with
  | nil => rfl
  | cons head tail induction =>
      rw [percentEncode_cons, bytesOf, List.flatMap_cons, ← bytesOf, ← induction]
      split
      · next kept =>
          have other : head ≠ '%' := by
            rintro rfl
            rw [notPercent] at kept
            cases kept
          rw [List.singleton_append, percentBytes_cons other]
      · exact percentBytes_percentCharacter head _

/-! Decoding adds no bytes, and a part of a text with all of its bytes is the text. -/

theorem eq_of_sublist_of_bytes {part text : List Char} (sublist : part.Sublist text)
    (large : (bytesOf text).length ≤ (bytesOf part).length) : part = text := by
  have within : (bytesOf part).Sublist (bytesOf text) := sublist.flatMap _
  exact bytesOf_injective (within.eq_of_length_le large)

theorem length_percentBytes_le (text : List Char) :
    (percentBytes text).length ≤ (bytesOf text).length := by
  have more (head : Char) (tail : List Char) :
      (bytesOf (head :: tail)).length =
        (String.utf8EncodeChar head).length + (bytesOf tail).length := by
    rw [bytesOf, List.flatMap_cons, List.length_append]
    rfl
  fun_induction percentBytes text with
  | case1 => exact Nat.le_refl _
  | case2 first second rest high low secondDigit firstDigit induction =>
      have one : (String.utf8EncodeChar '%').length = 1 := rfl
      rw [List.length_cons, more, more, more, one]
      omega
  | case3 first second rest notDigits induction =>
      rw [List.length_append, more]
      omega
  | case4 head tail short induction =>
      rw [List.length_append, more]
      omega

end ExportWatch.Host

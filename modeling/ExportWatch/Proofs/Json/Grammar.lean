import ExportWatch.Proofs.Decimal.Shortest
import ExportWatch.Proofs.Json.Writing

/-! The grammar of JSON, and that every value is written by it, whatever the layout and whatever
the value holds. -/

namespace ExportWatch.Json

open Text Decimal

/-! Numerals. -/

def AllDigits (text : List Char) : Prop :=
  ∀ digit ∈ text, isDigit digit = true

/-- No digit stands behind a zero in front. -/
inductive IsWhole : List Char → Prop
  | zero : IsWhole ['0']
  | digits {head : Char} {tail : List Char} :
      AllDigits (head :: tail) → head ≠ '0' → IsWhole (head :: tail)

inductive IsFraction : List Char → Prop
  | none : IsFraction []
  | digits {digits : List Char} : AllDigits digits → digits ≠ [] → IsFraction ('.' :: digits)

inductive IsExponent : List Char → Prop
  | none : IsExponent []
  | digits {mark : Char} {sign digits : List Char} :
      mark ∈ ['e', 'E'] → sign ∈ [[], ['+'], ['-']] → AllDigits digits → digits ≠ [] →
      IsExponent (mark :: sign ++ digits)

inductive IsNumeral : List Char → Prop
  | parts {sign whole fraction exponent : List Char} :
      sign ∈ [[], ['-']] → IsWhole whole → IsFraction fraction → IsExponent exponent →
      IsNumeral (sign ++ whole ++ fraction ++ exponent)

/-! Texts. -/

def isHexDigit (character : Char) : Bool :=
  (hexValue character).isSome

/-- One character of a text, or an escape. -/
inductive IsPiece : List Char → Prop
  | plain {character : Char} :
      0x20 ≤ character.toNat → character ≠ '"' → character ≠ '\\' → IsPiece [character]
  | marked {mark : Char} : mark ∈ "\"\\/bfnrt".toList → IsPiece ['\\', mark]
  | unit {first second third fourth : Char} :
      [first, second, third, fourth].all isHexDigit = true →
      IsPiece ['\\', 'u', first, second, third, fourth]

inductive IsText : List Char → Prop
  | pieces {pieces : List (List Char)} :
      (∀ piece ∈ pieces, IsPiece piece) → IsText ('"' :: pieces.flatten ++ ['"'])

/-! Values. Blanks may stand between any two parts. -/

def IsBlank (text : List Char) : Prop :=
  ∀ character ∈ text, isSpace character = true

/-- One part or more, with commas between them. -/
inductive IsList (IsPart : List Char → Prop) : List Char → Prop
  | last {before part after : List Char} :
      IsBlank before → IsPart part → IsBlank after → IsList IsPart (before ++ part ++ after)
  | more {before part after others : List Char} :
      IsBlank before → IsPart part → IsBlank after → IsList IsPart others →
      IsList IsPart (before ++ part ++ after ++ ',' :: others)

inductive IsMember (IsContent : List Char → Prop) : List Char → Prop
  | named {name after before content : List Char} :
      IsText name → IsBlank after → IsBlank before → IsContent content →
      IsMember IsContent (name ++ after ++ ':' :: (before ++ content))

inductive IsValue : List Char → Prop
  | null : IsValue "null".toList
  | yes : IsValue "true".toList
  | no : IsValue "false".toList
  | numeral {text : List Char} : IsNumeral text → IsValue text
  | text {text : List Char} : IsText text → IsValue text
  | emptyArray {blank : List Char} : IsBlank blank → IsValue ('[' :: blank ++ [']'])
  | array {items : List Char} : IsList IsValue items → IsValue ('[' :: items ++ [']'])
  | emptyObject {blank : List Char} : IsBlank blank → IsValue ('\x7b' :: blank ++ ['\x7d'])
  | object {members : List Char} :
      IsList (IsMember IsValue) members → IsValue ('\x7b' :: members ++ ['\x7d'])

/-- One complete document. -/
inductive IsDocument : List Char → Prop
  | value {before value after : List Char} :
      IsBlank before → IsValue value → IsBlank after → IsDocument (before ++ value ++ after)

/-! Numbers. -/

theorem allDigits_digitsOf (value : Nat) : AllDigits (digitsOf value) :=
  fun _ member => isDigit_of_mem_digitsOf member

theorem isWhole_head {head : Char} {tail : List Char} (digits : AllDigits (head :: tail)) :
    IsWhole [head] := by
  by_cases zero : head = '0'
  · rw [zero]
    exact .zero
  · exact .digits (List.forall_mem_singleton.mpr (digits head List.mem_cons_self)) zero

/-- The digits of a positive number begin with another digit than zero. -/
theorem isWhole_of_lead {value : Nat} {text : List Char} (positive : 0 < value)
    (digits : AllDigits text) (lead : text.head? = (digitsOf value).head?) : IsWhole text := by
  cases text with
  | nil => exact absurd (List.head?_eq_none_iff.mp lead.symm) (digitsOf_ne_nil value)
  | cons head tail =>
      refine .digits digits ?_
      rintro rfl
      exact head_digitsOf positive lead.symm

theorem isWhole_digitsOf (value : Nat) : IsWhole (digitsOf value) := by
  rcases Nat.eq_zero_or_pos value with rfl | positive
  · exact .zero
  · exact isWhole_of_lead positive (allDigits_digitsOf value) rfl

theorem isNumeral_signed (negative : Bool) {whole fraction exponent : List Char}
    (isWhole : IsWhole whole) (isFraction : IsFraction fraction)
    (isExponent : IsExponent exponent) :
    IsNumeral (signText negative ++ (whole ++ fraction ++ exponent)) := by
  have sign : signText negative ∈ [[], ['-']] := by cases negative <;> simp [signText]
  rw [← List.append_assoc, ← List.append_assoc]
  exact .parts sign isWhole isFraction isExponent

theorem isNumeral_wholeText (value : Int) : IsNumeral (wholeText value) := by
  have numeral := isNumeral_signed (decide (value < 0)) (isWhole_digitsOf value.natAbs) .none .none
  rw [List.append_nil, List.append_nil] at numeral
  exact numeral

/-- Of digits that are filled up with zeros in front, one is left when the places behind the point
are taken away, or all have been there from the start. -/
theorem isWhole_take_padded (value places : Nat) :
    let padded := padLeftZero (places + 1) (digitsOf value)
    IsWhole (padded.take (padded.length - places)) := by
  intro padded
  have digits : AllDigits padded :=
    fun _ member => isDigit_of_mem_padLeftZero (allDigits_digitsOf value) member
  have wide : padded.length = max (places + 1) (digitsOf value).length := by
    simp only [padded, padLeftZero, List.length_append, List.length_replicate]
    omega
  by_cases narrow : (digitsOf value).length ≤ places + 1
  · have one : padded.length - places = 1 := by omega
    rw [one]
    cases same : padded with
    | nil =>
        rw [same, List.length_nil] at wide
        omega
    | cons head tail =>
        rw [same] at digits
        exact isWhole_head digits
  · have unpadded : padded = digitsOf value := by
      have none : places + 1 - (digitsOf value).length = 0 := by omega
      rw [show padded = List.replicate _ '0' ++ digitsOf value from rfl, none]
      rfl
    have positive : 0 < value := by
      rcases Nat.eq_zero_or_pos value with rfl | positive
      · have one : (digitsOf 0).length = 1 := by decide
        omega
      · exact positive
    refine isWhole_of_lead positive (fun _ member => digits _ (List.mem_of_mem_take member)) ?_
    rw [List.head?_take, if_neg (by omega), unpadded]

theorem isWhole_with_zeros {value zeros : Nat} (zero : value = 0 → zeros = 0) :
    IsWhole (digitsOf value ++ List.replicate zeros '0') := by
  rcases Nat.eq_zero_or_pos value with rfl | positive
  · rw [zero rfl]
    exact .zero
  · have filled : (digitsOf value).head?.isSome := List.isSome_head?.mpr (digitsOf_ne_nil value)
    refine isWhole_of_lead positive ?_ (by rw [List.head?_append, Option.or_of_isSome filled])
    intro digit member
    rcases List.mem_append.mp member with given | added
    · exact allDigits_digitsOf value digit given
    · rw [List.eq_of_mem_replicate added]
      rfl

/-- Zeros up to the point are no numeral without another digit in front of them. -/
theorem isNumeral_positional (negative : Bool) {decimal : Scaled}
    (zero : decimal.digits = 0 → decimal.exponent ≤ 0) :
    IsNumeral (signText negative ++ positionalText ".0".toList decimal) := by
  unfold positionalText
  simp only []
  split
  · next above =>
      have whole : IsWhole
          (digitsOf decimal.digits ++ List.replicate decimal.exponent.toNat '0') := by
        apply isWhole_with_zeros
        intro empty
        exact Int.toNat_of_nonpos (zero empty)
      have fraction : IsFraction ".0".toList :=
        .digits (List.forall_mem_singleton.mpr rfl) (List.cons_ne_nil _ _)
      have numeral := isNumeral_signed negative whole fraction .none
      rw [List.append_nil] at numeral
      exact numeral
  · next below =>
      have whole := isWhole_take_padded decimal.digits decimal.exponent.natAbs
      simp only [] at whole
      have all : AllDigits (padLeftZero (decimal.exponent.natAbs + 1) (digitsOf decimal.digits)) :=
        fun _ member => isDigit_of_mem_padLeftZero (allDigits_digitsOf decimal.digits) member
      have wide : decimal.exponent.natAbs <
          (padLeftZero (decimal.exponent.natAbs + 1) (digitsOf decimal.digits)).length := by
        simp only [padLeftZero, List.length_append, List.length_replicate]
        omega
      generalize padLeftZero (decimal.exponent.natAbs + 1) (digitsOf decimal.digits) = padded
        at whole all wide ⊢
      have fraction : IsFraction
          ('.' :: padded.drop (padded.length - decimal.exponent.natAbs)) := by
        refine .digits (fun digit member => all digit (List.mem_of_mem_drop member)) ?_
        rw [Ne, List.drop_eq_nil_iff]
        omega
      have numeral := isNumeral_signed negative whole fraction .none
      rw [List.append_nil] at numeral
      exact numeral

theorem isExponent_exponentText (plus : Bool) (exponent : Int) :
    IsExponent (exponentText plus exponent) := by
  refine .digits (by simp) ?_ (allDigits_digitsOf _) (digitsOf_ne_nil _)
  cases plus <;> split <;> simp

theorem isNumeral_scientific (negative plus : Bool) (decimal : Scaled) :
    IsNumeral (signText negative ++ scientificText plus decimal) := by
  have digits := allDigits_digitsOf decimal.digits
  have exponent := isExponent_exponentText plus decimal.leading
  unfold scientificText
  simp only []
  split
  · next written => exact absurd written (digitsOf_ne_nil _)
  · next digit written =>
      rw [written] at digits
      have numeral := isNumeral_signed negative (isWhole_head digits) .none exponent
      rw [List.append_nil] at numeral
      exact numeral
  · next digit others filled written =>
      rw [written] at digits
      have rest : AllDigits others := fun _ member => digits _ (List.mem_cons_of_mem _ member)
      exact isNumeral_signed negative (isWhole_head digits) (.digits rest filled) exponent

theorem isNumeral_finite (negative : Bool) (significand : Nat) (exponent : Int) :
    IsNumeral (realStyle.finiteText negative significand exponent) := by
  unfold Style.finiteText
  simp only []
  split
  · next placed =>
      apply isNumeral_positional
      intro zero
      simp only [realStyle, Bool.and_eq_true, decide_eq_true_eq] at placed
      rcases exponent_of_no_digits zero with low | high
      · exact low
      · exact absurd placed.2 (Int.not_le.mpr high)
  · exact isNumeral_scientific _ _ _

theorem isValue_number (number : Number) : IsValue number.text := by
  cases number with
  | whole value => exact .numeral (isNumeral_wholeText value)
  | real value =>
      rw [Number.text, realText]
      split
      · exact .numeral (isNumeral_finite _ _ _)
      · exact .null

/-! Texts. -/

theorem isHexDigit_smallHexDigit : ∀ value < 16, isHexDigit (smallHexDigit value) = true := by
  decide

theorem isPiece_escape (character : Char) : IsPiece (escape character) := by
  unfold escape
  split
  · next mark found =>
      have marks : ∀ entry ∈ controlMarks, entry.2 ∈ "\"\\/bfnrt".toList := by decide
      exact .marked (marks _ (mem_of_lookup found))
  · next found =>
      have unmarked := lookup_eq_none_iff_not_mem.mp found
      split
      · next control =>
          refine .unit ?_
          simp only [List.all_cons, List.all_nil, Bool.and_true, Bool.and_eq_true]
          exact ⟨by decide, by decide, isHexDigit_smallHexDigit _ (by omega),
            isHexDigit_smallHexDigit _ (by omega)⟩
      · next printable =>
          refine .plain (Nat.not_lt.mp printable) ?_ ?_
          · rintro rfl
            exact unmarked (by decide)
          · rintro rfl
            exact unmarked (by decide)

theorem isText_quoted (text : String) : IsText (quoted text) := by
  rw [quoted, List.flatMap_def]
  refine .pieces ?_
  intro piece member
  rcases List.mem_map.mp member with ⟨character, -, rfl⟩
  exact isPiece_escape character

/-! Values. -/

theorem isBlank_nil : IsBlank [] :=
  List.forall_mem_nil _

section Layouts

variable {layout : Layout}

/-- A container is written empty, or with what it holds and a blank behind that. -/
theorem enclosed_cases (layout : Layout) (opening closing : Char) (depth : Nat)
    (body : List Char) :
    enclosed layout opening closing depth body = opening :: [] ++ [closing] ∨
      body ≠ [] ∧ enclosed layout opening closing depth body =
        opening :: (body ++ layout.lineBreak depth) ++ [closing] := by
  unfold enclosed
  split
  · exact .inl rfl
  · next filled =>
      rw [List.isEmpty_iff] at filled
      exact .inr ⟨filled, rfl⟩

theorem isMember_written (blank : layout.Blank) (name : String) {content : List Char}
    (isContent : IsValue content) :
    IsMember IsValue (quoted name ++ layout.colon ++ content) := by
  rcases blank.colon with ⟨before, colon, spaces⟩
  have member := IsMember.named (isText_quoted name) isBlank_nil spaces isContent
  rw [List.append_nil, ← List.cons_append, ← colon, ← List.append_assoc] at member
  exact member

/-- A part with the parts that are written behind it, if there are any. -/
theorem isList_part {IsPart : List Char → Prop} {before part others after : List Char} {last : Bool}
    (blankBefore : IsBlank before) (isPart : IsPart part) (blankAfter : IsBlank after)
    (more : last = false → IsList IsPart (others ++ after)) :
    IsList IsPart (before ++ part ++ (if last then [] else ',' :: others) ++ after) := by
  cases last with
  | true =>
      rw [if_pos rfl, List.append_nil]
      exact .last blankBefore isPart blankAfter
  | false =>
      have list := IsList.more blankBefore isPart isBlank_nil (more rfl)
      rw [List.append_nil] at list
      rw [if_neg Bool.false_ne_true, List.append_assoc, List.cons_append]
      exact list

mutual

theorem isValue_write (blank : layout.Blank) :
    (value : Value) → (depth : Nat) → IsValue (value.write layout depth)
  | .null, _ => .null
  | .bool true, _ => .yes
  | .bool false, _ => .no
  | .number number, _ => isValue_number number
  | .string text, _ => .text (isText_quoted text)
  | .array items, depth => by
      rcases enclosed_cases layout '[' ']' depth (writeItems layout (depth + 1) items) with
        empty | ⟨filled, whole⟩
      · rw [Value.write, empty]
        exact .emptyArray isBlank_nil
      · rw [Value.write, whole]
        refine .array (isList_writeItems blank items (depth + 1) ?_ (blank.lineBreak depth))
        rintro rfl
        exact filled rfl
  | .object members, depth => by
      rcases enclosed_cases layout '\x7b' '\x7d' depth
        (writeMembers layout (depth + 1) members) with empty | ⟨filled, whole⟩
      · rw [Value.write, empty]
        exact .emptyObject isBlank_nil
      · rw [Value.write, whole]
        refine .object (isList_writeMembers blank members (depth + 1) ?_ (blank.lineBreak depth))
        rintro rfl
        exact filled rfl

theorem isList_writeItems (blank : layout.Blank) :
    (items : List Value) → (depth : Nat) → items ≠ [] →
      {after : List Char} → IsBlank after →
        IsList IsValue (writeItems layout depth items ++ after)
  | [], _, filled, _, _ => absurd rfl filled
  | head :: tail, depth, _, after, blankAfter => by
      rw [writeItems]
      refine isList_part (blank.lineBreak depth) (isValue_write blank head depth) blankAfter ?_
      intro notLast
      exact isList_writeItems blank tail depth (List.isEmpty_eq_false_iff.mp notLast) blankAfter

theorem isList_writeMembers (blank : layout.Blank) :
    (members : List (String × Value)) → (depth : Nat) → members ≠ [] →
      {after : List Char} → IsBlank after →
        IsList (IsMember IsValue) (writeMembers layout depth members ++ after)
  | [], _, filled, _, _ => absurd rfl filled
  | (name, head) :: tail, depth, _, after, blankAfter => by
      have written : writeMembers layout depth ((name, head) :: tail) =
          layout.lineBreak depth ++ (quoted name ++ layout.colon ++ head.write layout depth) ++
            (if tail.isEmpty then [] else ',' :: writeMembers layout depth tail) := by
        rw [writeMembers]
        simp only [List.append_assoc]
      rw [written]
      refine isList_part (blank.lineBreak depth)
        (isMember_written blank name (isValue_write blank head depth)) blankAfter ?_
      intro notLast
      exact isList_writeMembers blank tail depth (List.isEmpty_eq_false_iff.mp notLast) blankAfter

end

theorem isDocument_write (blank : layout.Blank) (value : Value) (depth : Nat) :
    IsDocument (value.write layout depth) := by
  have document := IsDocument.value isBlank_nil (isValue_write blank value depth) isBlank_nil
  rw [List.append_nil] at document
  exact document

end Layouts

end ExportWatch.Json

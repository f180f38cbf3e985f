import ExportWatch.Proofs.Json.Grammar

/-! On one line a value is written without control characters, so that nothing in it ends the
line. -/

namespace ExportWatch.Json

open Text Decimal

def Printable (text : List Char) : Prop :=
  ∀ character ∈ text, 0x20 ≤ character.toNat

instance (text : List Char) : Decidable (Printable text) :=
  List.decidableBAll (fun character : Char => 0x20 ≤ character.toNat) text

theorem Printable.append {first second : List Char} (left : Printable first)
    (right : Printable second) : Printable (first ++ second) :=
  List.forall_mem_append.mpr ⟨left, right⟩

theorem Printable.cons {head : Char} {tail : List Char} (first : 0x20 ≤ head.toNat)
    (rest : Printable tail) : Printable (head :: tail) :=
  List.forall_mem_cons.mpr ⟨first, rest⟩

theorem Printable.not_mem {text : List Char} (printable : Printable text) : '\n' ∉ text := by
  intro member
  have least := printable '\n' member
  revert least
  decide

theorem le_of_isDigit {character : Char} (digit : isDigit character = true) :
    0x20 ≤ character.toNat := by
  rw [isDigit, Bool.and_eq_true, decide_eq_true_eq] at digit
  have least : '0'.toNat ≤ character.toNat := digit.1
  exact Nat.le_trans (by decide) least

theorem le_of_isNumeralCharacter {character : Char}
    (belongs : isNumeralCharacter character = true) : 0x20 ≤ character.toNat := by
  simp only [isNumeralCharacter, Bool.or_eq_true, decide_eq_true_eq] at belongs
  rcases belongs with (((digit | rfl) | rfl) | rfl) | rfl
  · exact le_of_isDigit digit
  · decide
  · decide
  · decide
  · decide

theorem printable_number (number : Number) : Printable number.text := by
  cases number with
  | whole value =>
      refine Printable.append ?_ fun _ member => le_of_isDigit (isDigit_of_mem_digitsOf member)
      cases decide (value < 0) <;> simp [signText, Printable]
  | real value =>
      rcases realText_shape value with null | ⟨negative, unsigned, shape, written⟩
      · rw [Number.text, null]
        decide
      · rw [Number.text, written]
        exact fun _ member => le_of_isNumeralCharacter (shape.signed_characters _ member)

theorem printable_escape (character : Char) : Printable (escape character) := by
  unfold escape
  split
  · next mark found =>
      have marks : ∀ entry ∈ controlMarks, 0x20 ≤ entry.2.toNat := by decide
      exact .cons (by decide) (List.forall_mem_singleton.mpr (marks _ (mem_of_lookup found)))
  · split
    · next control =>
        have digits : ∀ value < 16, 0x20 ≤ (smallHexDigit value).toNat := by decide
        have parts : Printable
            [smallHexDigit (character.toNat / 16), smallHexDigit (character.toNat % 16)] :=
          .cons (digits _ (by omega)) (List.forall_mem_singleton.mpr (digits _ (by omega)))
        exact .cons (by decide) (.cons (by decide) (.cons (by decide) (.cons (by decide) parts)))
    · next printable => exact List.forall_mem_singleton.mpr (Nat.not_lt.mp printable)

theorem printable_quoted (text : String) : Printable (quoted text) := by
  refine .append (.cons (by decide) ?_) (by decide)
  intro character member
  rcases List.mem_flatMap.mp member with ⟨written, -, escaped⟩
  exact printable_escape written character escaped

theorem printable_enclosed {opening closing : Char} {body : List Char}
    (first : 0x20 ≤ opening.toNat) (last : 0x20 ≤ closing.toNat) (inside : Printable body)
    (depth : Nat) : Printable (enclosed onOneLine opening closing depth body) := by
  have end_ : Printable [closing] := List.forall_mem_singleton.mpr last
  rcases enclosed_cases onOneLine opening closing depth body with empty | ⟨-, whole⟩
  · rw [empty]
    exact .cons first end_
  · rw [whole]
    exact .cons first (.append (.append inside (List.forall_mem_nil _)) end_)

theorem printable_others {last : Bool} {others : List Char} (printable : Printable others) :
    Printable (if last then [] else ',' :: others) := by
  cases last with
  | true => exact List.forall_mem_nil _
  | false => exact .cons (by decide) printable

mutual

theorem printable_write : (value : Value) → (depth : Nat) → Printable (value.write onOneLine depth)
  | .null, _ => (by decide : Printable "null".toList)
  | .bool true, _ => (by decide : Printable "true".toList)
  | .bool false, _ => (by decide : Printable "false".toList)
  | .number number, _ => printable_number number
  | .string text, _ => printable_quoted text
  | .array items, depth =>
      printable_enclosed (by decide) (by decide) (printable_writeItems items (depth + 1)) depth
  | .object members, depth =>
      printable_enclosed (by decide) (by decide) (printable_writeMembers members (depth + 1)) depth

theorem printable_writeItems :
    (items : List Value) → (depth : Nat) → Printable (writeItems onOneLine depth items)
  | [], _ => List.forall_mem_nil _
  | head :: tail, depth =>
      .append (printable_write head depth) (printable_others (printable_writeItems tail depth))

theorem printable_writeMembers :
    (members : List (String × Value)) → (depth : Nat) →
      Printable (writeMembers onOneLine depth members)
  | [], _ => List.forall_mem_nil _
  | (name, head) :: tail, depth =>
      .append (.append (.append (printable_quoted name) (by decide)) (printable_write head depth))
        (printable_others (printable_writeMembers tail depth))

end

end ExportWatch.Json

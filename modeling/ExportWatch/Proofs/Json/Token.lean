import ExportWatch.Proofs.Json.Number
import ExportWatch.Proofs.Json.Quoted

/-! The first token of a text, by how the text begins. -/

namespace ExportWatch.Json

open Text Decimal

variable {text rest : List Char}

theorem tokens_nil : tokens [] = [] := by
  rw [tokens]

theorem tokens_of_isSpace {head : Char} (space : isSpace head = true) (tail : List Char) :
    tokens (head :: tail) = tokens tail := by
  rw [tokens, if_pos space]

theorem tokens_blank {blank : List Char} (spaces : ∀ character ∈ blank, isSpace character = true)
    (rest : List Char) : tokens (blank ++ rest) = tokens rest := by
  induction blank with
  | nil => rfl
  | cons head tail induction =>
      rw [List.cons_append, tokens_of_isSpace (spaces head List.mem_cons_self)]
      exact induction fun character member => spaces character (List.mem_cons_of_mem _ member)

/-! Tokens of one character. -/

def marks : List (Char × Token) :=
  [('\x7b', .openObject), ('\x7d', .closeObject), ('[', .openArray), (']', .closeArray),
    (':', .colon), (',', .comma)]

theorem tokens_mark (mark : Char × Token) (member : mark ∈ marks) (tail : List Char) :
    tokens (mark.1 :: tail) = mark.2 :: tokens tail := by
  simp only [marks, List.mem_cons, List.not_mem_nil, or_false] at member
  rcases member with rfl | rfl | rfl | rfl | rfl | rfl <;> rw [tokens] <;> simp [isSpace]

/-! Words. -/

theorem tokens_null (rest : List Char) : tokens ("null".toList ++ rest) = .null :: tokens rest := by
  change tokens ('n' :: ("ull".toList ++ rest)) = _
  rw [tokens]
  simp only [isSpace, isDigit]
  simp
  split <;> simp_all [afterStart]

theorem tokens_true (rest : List Char) :
    tokens ("true".toList ++ rest) = .bool true :: tokens rest := by
  change tokens ('t' :: ("rue".toList ++ rest)) = _
  rw [tokens]
  simp [isSpace, isDigit]
  split <;> simp_all [afterStart]

theorem tokens_false (rest : List Char) :
    tokens ("false".toList ++ rest) = .bool false :: tokens rest := by
  change tokens ('f' :: ("alse".toList ++ rest)) = _
  rw [tokens]
  simp [isSpace, isDigit]
  split <;> simp_all [afterStart]

/-! Quoted text. -/

theorem tokens_text {tail : List Char} (ended : (scanText tail).ending = .ok rest) :
    tokens ('"' :: tail) = .text (scanText tail).content :: tokens rest := by
  rw [tokens]
  simp [isSpace]
  split <;> simp_all

theorem tokens_quoted (text : String) (rest : List Char) :
    tokens (quoted text ++ rest) = .text (.ok text.toList) :: tokens rest := by
  rcases content_scanText_quoted text.toList rest with ⟨content, ended⟩
  have behind : quoted text ++ rest = '"' :: (text.toList.flatMap escape ++ '"' :: rest) := by
    simp [quoted]
  rw [behind, tokens_text ended, content]

/-! Numbers. -/

/-- How a numeral begins. -/
def BeginsNumeral (head : Char) : Prop :=
  head = '-' ∨ isDigit head = true

theorem tokens_of_beginsNumeral {head : Char} (begins : BeginsNumeral head) (tail : List Char) :
    tokens (head :: tail) =
      match Numeral.scan (head :: tail) with
      | .ok (numeral, rest) => .number numeral.value :: tokens rest
      | .error fault => [.number (.error fault), .broken .malformed] := by
  have other : ∀ mark ∈ " \n\t\r\x7b\x7d[]:,\"".toList, head ≠ mark := by
    rintro mark member rfl
    have none : " \n\t\r\x7b\x7d[]:,\"".toList.all
        (fun mark => !(mark = '-' || isDigit mark)) = true := by
      decide
    have notBegins := List.all_eq_true.mp none head member
    simp only [Bool.not_eq_true', Bool.or_eq_false_iff, decide_eq_false_iff_not] at notBegins
    rcases begins with minus | digit
    · exact notBegins.1 minus
    · rw [notBegins.2] at digit
      cases digit
  simp only [String.reduceToList, List.forall_mem_cons, List.not_mem_nil, IsEmpty.forall_iff,
    implies_true, and_true] at other
  rcases other with ⟨blank, line, tab, carriage, openObject, closeObject, openArray, closeArray,
    colon, comma, quote⟩
  rw [tokens]
  simp only [isSpace, blank, line, tab, carriage, openObject, closeObject, openArray, closeArray,
    colon, comma, quote, decide_false, Bool.or_false, Bool.false_eq_true, if_false]
  have chosen : head = '-' ∨ isDigit head = true := begins
  rw [if_pos chosen]
  split <;> simp_all

/-- A numeral that is not over does not go unnoticed. -/
theorem tokens_ne_nil {head : Char} (belongs : isNumeralCharacter head = true) (tail : List Char) :
    tokens (head :: tail) ≠ [] := by
  by_cases begins : BeginsNumeral head
  · rw [tokens_of_beginsNumeral begins]
    split <;> simp
  · have mark : head = '.' ∨ head = 'e' ∨ head = '+' := by
      simp only [isNumeralCharacter, Bool.or_eq_true, decide_eq_true_eq] at belongs
      simp only [BeginsNumeral, not_or] at begins
      rcases belongs with (((digit | point) | mark) | plus) | minus
      · exact absurd digit begins.2
      · exact .inl point
      · exact .inr (.inl mark)
      · exact .inr (.inr plus)
      · exact absurd minus begins.1
    rcases mark with rfl | rfl | rfl <;> rw [tokens] <;> simp [isSpace, isDigit]

/-! The text of a double. -/

theorem realText_shape (value : Float) :
    realText value = "null".toList ∨
      ∃ negative unsigned, RealShape unsigned ∧ realText value = signText negative ++ unsigned := by
  unfold realText
  split
  · next negative significand exponent _ =>
      rcases realShape_finite negative significand exponent with ⟨unsigned, shape, same⟩
      exact .inr ⟨negative, unsigned, shape, same⟩
  · exact .inl rfl

theorem foldl_finished (document : Document) (others : List Token) :
    others.foldl Reading.step (.finished document) = .finished document := by
  induction others with
  | nil => rfl
  | cons head tail induction => exact induction

/-- A number is all of the document, or text follows it. -/
theorem readDocument_number {value : Except Fault Number} {others : List Token}
    (first : tokens text = .number value :: others) :
    readDocument text = ⟨.number value, !others.isEmpty⟩ := by
  rw [readDocument, first]
  cases others with
  | nil => rfl
  | cons head tail =>
      have trailing : Reading.step (.afterValue (.number value) []) head =
          .finished ⟨.number value, true⟩ := by
        cases head <;> rfl
      change (tail.foldl Reading.step
        (Reading.step (.afterValue (.number value) []) head)).document = _
      rw [trailing, foldl_finished]
      rfl

theorem decodeDocument_number {value : Except Fault Number} {others : List Token} {read : Float}
    (first : tokens text = .number value :: others)
    (decoded : decodeDocument decodeFloat (String.ofList text) = .ok read) :
    others = [] ∧ ∃ number, value = .ok number ∧ number.toFloat = read := by
  rw [decodeDocument, String.toList_ofList, readDocument_number first] at decoded
  cases value with
  | error fault => cases decoded
  | ok number =>
      cases others with
      | nil => exact ⟨rfl, number, rfl, by injection decoded⟩
      | cons head tail => cases decoded

/-- A numeral is a whole number only if it has neither a fraction nor an exponent. -/
theorem Numeral.plain_of_whole {numeral : Numeral} {whole : Int}
    (value : numeral.value = .ok (.whole whole)) :
    numeral.fraction = [] ∧ numeral.exponent = none := by
  unfold Numeral.value at value
  simp only [] at value
  split at value
  · next plain =>
      simp only [Bool.and_eq_true, List.isEmpty_iff, Option.isNone_iff_eq_none] at plain
      exact plain.1
  · generalize Numeral.real numeral _ _ = real at value
    cases real <;> cases value

theorem RealShape.not_plain {negative : Bool} {unsigned : List Char} (shape : RealShape unsigned)
    (plain : ∀ character ∈ signText negative ++ unsigned,
      character = '-' ∨ isDigit character = true) : False := by
  rcases shape.marked with point | mark
  · rcases plain '.' (List.mem_append_right _ point) with minus | digit
    · cases minus
    · cases digit
  · rcases plain 'e' (List.mem_append_right _ mark) with minus | digit
    · cases minus
    · cases digit

theorem RealShape.signed_characters {negative : Bool} {unsigned : List Char}
    (shape : RealShape unsigned) :
    ∀ character ∈ signText negative ++ unsigned, isNumeralCharacter character = true := by
  intro character member
  rcases List.mem_append.mp member with sign | digit
  · cases negative with
    | false => cases sign
    | true =>
        rw [List.mem_singleton.mp sign]
        rfl
  · exact shape.characters character digit

theorem RealShape.signed_begins {unsigned : List Char} (negative : Bool)
    (shape : RealShape unsigned) :
    ∃ head tail, signText negative ++ unsigned = head :: tail ∧ BeginsNumeral head := by
  cases negative with
  | true => exact ⟨'-', unsigned, rfl, .inl rfl⟩
  | false =>
      rcases shape.begins with ⟨digit, first, isDigit⟩
      rcases List.head?_eq_some_iff.mp first with ⟨tail, rfl⟩
      exact ⟨digit, tail, rfl, .inr isDigit⟩

theorem realShape_of_readsBack {value : Float} (readsBack : ReadsBack value) :
    ∃ negative unsigned, RealShape unsigned ∧ realText value = signText negative ++ unsigned := by
  rcases realText_shape value with null | shaped
  · have alone : tokens "null".toList = [.null] := by
      have first := tokens_null []
      rwa [List.append_nil, tokens_nil] at first
    have text : (Value.real value).compact = String.ofList "null".toList := congrArg _ null
    rw [ReadsBack, text, decodeDocument, String.toList_ofList, readDocument, alone] at readsBack
    cases readsBack
  · exact shaped

/-- A double that is read back is read from its own text, all of it. -/
theorem scan_of_readsBack {value : Float} (readsBack : ReadsBack value) :
    (∃ head tail, realText value = head :: tail ∧ BeginsNumeral head) ∧
      ∃ numeral, Numeral.scan (realText value) = .ok (numeral, []) ∧
        numeral.value = .ok (.real value) := by
  rcases realShape_of_readsBack readsBack with ⟨negative, unsigned, shape, written⟩
  rcases shape.signed_begins negative with ⟨head, tail, same, begins⟩
  rw [written]
  refine ⟨⟨head, tail, same, begins⟩, ?_⟩
  have decoded : decodeDocument decodeFloat (String.ofList (realText value)) = .ok value :=
    readsBack
  have first := tokens_of_beginsNumeral begins tail
  rw [← same] at first
  rw [written] at decoded
  cases scanned : Numeral.scan (signText negative ++ unsigned) with
  | error fault =>
      rw [scanned] at first
      rcases (decodeDocument_number first decoded).2 with ⟨number, impossible, -⟩
      cases impossible
  | ok read =>
      rcases read with ⟨numeral, rest⟩
      rw [scanned] at first
      rcases decodeDocument_number first decoded with ⟨ended, number, numeralValue, same⟩
      have nothing : rest = [] := by
        cases rest with
        | nil => rfl
        | cons other others =>
            have member := (Numeral.suffix_of_scan scanned).subset List.mem_cons_self
            exact absurd ended (tokens_ne_nil (shape.signed_characters other member) others)
      subst nothing
      refine ⟨numeral, rfl, ?_⟩
      cases number with
      | real read => rw [numeralValue, ← same]; rfl
      | whole read =>
          have plain := Numeral.plain_of_whole numeralValue
          exact (shape.not_plain (Numeral.plain_of_scan scanned plain.1 plain.2)).elim

/-- A double is read back exactly when the numeral it is written as has its value. -/
theorem readsBack_iff {value : Float} :
    ReadsBack value ↔ ∃ numeral, Numeral.scan (realText value) = .ok (numeral, []) ∧
      numeral.value = .ok (.real value) := by
  constructor
  · exact fun readsBack => (scan_of_readsBack readsBack).2
  · rintro ⟨numeral, scanned, read⟩
    have begins : ∃ head tail, realText value = head :: tail ∧ BeginsNumeral head := by
      rcases realText_shape value with null | ⟨negative, unsigned, shape, written⟩
      · rw [null] at scanned
        cases scanned
      · rw [written]
        exact shape.signed_begins negative
    rcases begins with ⟨head, tail, same, begins⟩
    have first : tokens (realText value) = .number (.ok (.real value)) :: [] := by
      rw [same] at scanned ⊢
      rw [tokens_of_beginsNumeral begins, scanned, ← read]
      simp only [tokens_nil]
    have text : (Value.real value).compact = String.ofList (realText value) := rfl
    rw [ReadsBack, text, decodeDocument, String.toList_ofList, readDocument_number first]
    rfl

end ExportWatch.Json

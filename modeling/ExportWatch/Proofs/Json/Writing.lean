import ExportWatch.Proofs.Json.Token

/-! A written value has the tokens of the value, whatever the layout. A layout adds
blanks only, and its blanks end a numeral. -/

namespace ExportWatch.Json

open Text

/-! The numbers in a value, and which of them are read as they are written. -/

mutual

def Value.numbers : Value → List Number
  | .number value => [value]
  | .array items => itemNumbers items
  | .object members => memberNumbers members
  | _ => []

def itemNumbers : List Value → List Number
  | [] => []
  | head :: tail => head.numbers ++ itemNumbers tail

def memberNumbers : List (String × Value) → List Number
  | [] => []
  | (_, head) :: tail => head.numbers ++ memberNumbers tail

end

theorem numbers_optional {α : Type} (encode : α → Value) (value : Option α) :
    (Value.optional encode value).numbers =
      value.toList.flatMap fun content => (encode content).numbers := by
  cases value with
  | none => rfl
  | some content => simp [Value.optional]

theorem itemNumbers_map {α : Type} (encode : α → Value) (values : List α) :
    itemNumbers (values.map encode) = values.flatMap fun value => (encode value).numbers := by
  induction values with
  | nil => rfl
  | cons head tail induction => rw [List.map_cons, itemNumbers, induction, List.flatMap_cons]

theorem wholeText_begins (value : Int) :
    ∃ head tail, Decimal.wholeText value = head :: tail ∧ BeginsNumeral head := by
  unfold Decimal.wholeText Decimal.signText
  by_cases negative : value < 0
  · exact ⟨'-', digitsOf value.natAbs, by simp [negative], .inl rfl⟩
  · cases written : digitsOf value.natAbs with
    | nil => exact absurd written (digitsOf_ne_nil _)
    | cons head tail =>
        exact ⟨head, tail, by simp [negative], .inr (isDigit_of_digitsOf_eq written)⟩

def Number.Readable : Number → Prop
  | .whole value => InWord value
  | .real value => ReadsBack value

theorem Number.tokens_text {number : Number} {rest : List Char} (readable : number.Readable)
    (ends : EndsNumeral rest) :
    tokens (number.text ++ rest) = .number (.ok number) :: tokens rest := by
  have numeral : (∃ head tail, number.text = head :: tail ∧ BeginsNumeral head) ∧
      ∃ numeral, Numeral.scan number.text = .ok (numeral, []) ∧ numeral.value = .ok number := by
    cases number with
    | real value => exact scan_of_readsBack readable
    | whole value =>
        exact ⟨wholeText_begins value, _, Numeral.scan_wholeText value,
          Numeral.value_ofWhole readable⟩
  rcases numeral with ⟨⟨head, tail, same, begins⟩, numeral, scanned, value⟩
  have longer := Numeral.scan_append ends scanned
  rw [same, List.cons_append] at longer ⊢
  rw [tokens_of_beginsNumeral begins, longer, List.nil_append]
  simp only [value]

/-! Layouts. -/

structure Layout.Blank (layout : Layout) : Prop where
  lineBreak : ∀ depth, ∀ character ∈ layout.lineBreak depth, isSpace character = true
  colon : ∃ blank, layout.colon = ':' :: blank ∧ ∀ character ∈ blank, isSpace character = true

theorem blank_onOneLine : onOneLine.Blank where
  lineBreak := fun _ _ member => nomatch member
  colon := ⟨[], rfl, fun _ member => nomatch member⟩

theorem blank_indented : indented.Blank where
  lineBreak := by
    intro depth character member
    rcases List.mem_cons.mp member with rfl | member
    · rfl
    · rw [List.eq_of_mem_replicate member]
      rfl
  colon := ⟨[' '], rfl, List.all_eq_true.mp (by decide)⟩

theorem EndsNumeral.of_mark {mark : Char} (member : mark ∈ [',', ']', '\x7d']) (rest : List Char) :
    EndsNumeral (mark :: rest) := by
  intro head isHead
  cases isHead
  simp only [List.mem_cons, List.not_mem_nil, or_false] at member
  rcases member with rfl | rfl | rfl <;> decide

theorem EndsNumeral.blank {blank rest : List Char}
    (spaces : ∀ character ∈ blank, isSpace character = true) (ends : EndsNumeral rest) :
    EndsNumeral (blank ++ rest) := by
  cases blank with
  | nil => exact ends
  | cons head tail =>
      intro first isHead
      cases isHead
      have space := spaces head List.mem_cons_self
      simp only [isSpace, Bool.or_eq_true, decide_eq_true_eq] at space
      rcases space with ((rfl | rfl) | rfl) | rfl <;> decide

/-! The tokens of a value. -/

mutual

def Value.tokens : Value → List Token
  | .null => [.null]
  | .bool value => [.bool value]
  | .number value => [.number (.ok value)]
  | .string text => [.text (.ok text.toList)]
  | .array items => .openArray :: itemTokens items ++ [.closeArray]
  | .object members => .openObject :: memberTokens members ++ [.closeObject]

def itemTokens : List Value → List Token
  | [] => []
  | head :: tail => head.tokens ++ (if tail.isEmpty then [] else .comma :: itemTokens tail)

def memberTokens : List (String × Value) → List Token
  | [] => []
  | (name, head) :: tail =>
      .text (.ok name.toList) :: .colon :: head.tokens ++
        (if tail.isEmpty then [] else .comma :: memberTokens tail)

end

variable {layout : Layout}

theorem tokens_colon (blank : layout.Blank) (rest : List Char) :
    tokens (layout.colon ++ rest) = .colon :: tokens rest := by
  rcases blank.colon with ⟨after, same, spaces⟩
  rw [same, List.cons_append, tokens_mark (':', .colon) (by simp [marks]),
    tokens_blank spaces]

/-- The tokens of a container, given the tokens of its body. -/
theorem tokens_enclosed (blank : layout.Blank) (opening closing : Char × Token) {depth : Nat}
    {body : List Char} {inner : List Token} (isOpening : opening ∈ marks)
    (isClosing : closing ∈ marks) (ends : closing.1 ∈ [',', ']', '\x7d'])
    (written : ∀ rest, EndsNumeral rest → tokens (body ++ rest) = inner ++ tokens rest)
    (rest : List Char) :
    tokens (enclosed layout opening.1 closing.1 depth body ++ rest) =
      opening.2 :: inner ++ [closing.2] ++ tokens rest := by
  have close := EndsNumeral.of_mark ends rest
  unfold enclosed
  split
  · next empty =>
      have inside := written _ close
      rw [List.isEmpty_iff.mp empty, List.nil_append, tokens_mark closing isClosing] at inside
      simp only [List.cons_append, List.nil_append]
      rw [tokens_mark opening isOpening, tokens_mark closing isClosing, inside]
      simp
  · have inside := written _ (close.blank (blank.lineBreak depth))
    simp only [List.cons_append, List.nil_append, List.append_assoc]
    rw [tokens_mark opening isOpening, inside, tokens_blank (blank.lineBreak depth),
      tokens_mark closing isClosing]

/-! What stands between two parts of a container. -/

theorem tokens_separated {written rest : List Char} {inner : List Token} (last : Bool)
    (others : tokens (written ++ rest) = inner ++ tokens rest) :
    tokens ((if last then [] else ',' :: written) ++ rest) =
      (if last then [] else .comma :: inner) ++ tokens rest := by
  cases last with
  | true => rfl
  | false => exact (tokens_mark (',', .comma) (by simp [marks]) _).trans (congrArg _ others)

theorem EndsNumeral.separated {rest : List Char} (last : Bool) (written : List Char)
    (ends : EndsNumeral rest) :
    EndsNumeral ((if last then [] else ',' :: written) ++ rest) := by
  cases last with
  | true => exact ends
  | false => exact EndsNumeral.of_mark (by decide) _

mutual

theorem tokens_write (blank : layout.Blank) :
    (value : Value) → (depth : Nat) → (∀ number ∈ value.numbers, number.Readable) →
      (rest : List Char) → EndsNumeral rest →
        tokens (value.write layout depth ++ rest) = value.tokens ++ tokens rest
  | .null, _, _, rest, _ => tokens_null rest
  | .bool true, _, _, rest, _ => tokens_true rest
  | .bool false, _, _, rest, _ => tokens_false rest
  | .number _, _, readable, _, ends => Number.tokens_text (readable _ List.mem_cons_self) ends
  | .string text, _, _, rest, _ => tokens_quoted text rest
  | .array items, depth, readable, rest, _ =>
      tokens_enclosed blank ('[', .openArray) (']', .closeArray) (by simp [marks])
        (by simp [marks]) (by decide)
        (tokens_writeItems blank items (depth + 1) readable) rest
  | .object members, depth, readable, rest, _ =>
      tokens_enclosed blank ('\x7b', .openObject) ('\x7d', .closeObject) (by simp [marks])
        (by simp [marks]) (by decide)
        (tokens_writeMembers blank members (depth + 1) readable) rest

theorem tokens_writeItems (blank : layout.Blank) :
    (items : List Value) → (depth : Nat) → (∀ number ∈ itemNumbers items, number.Readable) →
      (rest : List Char) → EndsNumeral rest →
        tokens (writeItems layout depth items ++ rest) = itemTokens items ++ tokens rest
  | [], _, _, _, _ => rfl
  | head :: tail, depth, readable, rest, ends => by
      have first := tokens_write blank head depth fun number member =>
        readable number (List.mem_append_left _ member)
      have others := tokens_writeItems blank tail depth (fun number member =>
        readable number (List.mem_append_right _ member)) rest ends
      have separated := ends.separated tail.isEmpty (writeItems layout depth tail)
      rw [writeItems, itemTokens, List.append_assoc, List.append_assoc,
        tokens_blank (blank.lineBreak depth), first _ separated, tokens_separated _ others,
        List.append_assoc]

theorem tokens_writeMembers (blank : layout.Blank) :
    (members : List (String × Value)) → (depth : Nat) →
      (∀ number ∈ memberNumbers members, number.Readable) → (rest : List Char) →
        EndsNumeral rest →
          tokens (writeMembers layout depth members ++ rest) = memberTokens members ++ tokens rest
  | [], _, _, _, _ => rfl
  | (name, head) :: tail, depth, readable, rest, ends => by
      have first := tokens_write blank head depth fun number member =>
        readable number (List.mem_append_left _ member)
      have others := tokens_writeMembers blank tail depth (fun number member =>
        readable number (List.mem_append_right _ member)) rest ends
      have separated := ends.separated tail.isEmpty (writeMembers layout depth tail)
      rw [writeMembers, memberTokens]
      simp only [List.append_assoc, List.cons_append]
      rw [tokens_blank (blank.lineBreak depth), tokens_quoted, tokens_colon blank,
        first _ separated, tokens_separated _ others]

end

end ExportWatch.Json

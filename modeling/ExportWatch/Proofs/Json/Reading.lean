import ExportWatch.Proofs.Json.Writing

/-! Reading the tokens of a value gives the node of the value, as long as its
containers are not nested too deeply. So a written value is read as it was. -/

namespace ExportWatch.Json

/-! How deeply containers are nested. -/

mutual

def Value.nesting : Value → Nat
  | .array items => itemNesting items + 1
  | .object members => memberNesting members + 1
  | _ => 0

def itemNesting : List Value → Nat
  | [] => 0
  | head :: tail => max head.nesting (itemNesting tail)

def memberNesting : List (String × Value) → Nat
  | [] => 0
  | (_, head) :: tail => max head.nesting (memberNesting tail)

end

theorem nesting_optional_le {α : Type} {encode : α → Value} {value : Option α} {limit : Nat}
    (bounded : ∀ content ∈ value, (encode content).nesting ≤ limit) :
    (Value.optional encode value).nesting ≤ limit := by
  cases value with
  | none => exact Nat.zero_le _
  | some content => exact bounded content rfl

theorem itemNesting_le {items : List Value} {limit : Nat}
    (bounded : ∀ item ∈ items, item.nesting ≤ limit) : itemNesting items ≤ limit := by
  induction items with
  | nil => exact Nat.zero_le _
  | cons head tail induction =>
      rw [itemNesting, Nat.max_le]
      exact ⟨bounded head List.mem_cons_self,
        induction fun item member => bounded item (List.mem_cons_of_mem _ member)⟩

theorem memberNesting_le {members : List (String × Value)} {limit : Nat}
    (bounded : ∀ member ∈ members, member.2.nesting ≤ limit) : memberNesting members ≤ limit := by
  induction members with
  | nil => exact Nat.zero_le _
  | cons head tail induction =>
      rw [memberNesting, Nat.max_le]
      exact ⟨bounded head List.mem_cons_self,
        induction fun member isMember => bounded member (List.mem_cons_of_mem _ isMember)⟩

theorem atDepth_of_room {frames : List Frame} (room : frames.length < depthLimit) (node : Node) :
    atDepth frames node = node :=
  if_pos room

/-! Reading goes on from where a value was expected to behind the value. The parts
that a container already has come before those that are read. -/

mutual

theorem foldl_tokens (canClose : Bool) (frames : List Frame) :
    (value : Value) → frames.length + value.nesting ≤ depthLimit →
      value.tokens.foldl Reading.step (.beforeValue canClose frames) =
        .afterValue value.toNode frames
  | .null, _ => rfl
  | .bool _, _ => rfl
  | .number _, _ => rfl
  | .string _, _ => rfl
  | .array items, fits => by
      have inside := foldl_itemTokens true [] frames items fits
      rw [Value.nesting] at fits
      rw [Value.tokens, List.cons_append, List.foldl_cons]
      cases items with
      | nil =>
          change Reading.afterValue (atDepth frames (.array [] none)) frames = _
          rw [atDepth_of_room (by omega)]
          rfl
      | cons head tail => exact inside (List.cons_ne_nil head tail)
  | .object members, fits => by
      have inside := foldl_memberTokens true [] frames members fits
      rw [Value.nesting] at fits
      rw [Value.tokens, List.cons_append, List.foldl_cons]
      cases members with
      | nil =>
          change Reading.afterValue (atDepth frames (.object [] none)) frames = _
          rw [atDepth_of_room (by omega)]
          rfl
      | cons head tail => exact inside (List.cons_ne_nil head tail)

theorem foldl_itemTokens (canClose : Bool) (done : List Node) (frames : List Frame) :
    (items : List Value) → frames.length + (itemNesting items + 1) ≤ depthLimit → items ≠ [] →
      (itemTokens items ++ [Token.closeArray]).foldl Reading.step
          (.beforeValue canClose (.items done :: frames)) =
        .afterValue (.array (done.reverse ++ itemNodes items) none) frames
  | [], _, notNil => absurd rfl notNil
  | head :: tail, fits, _ => by
      rw [itemNesting] at fits
      have first := foldl_tokens canClose (.items done :: frames) head
        (by rw [List.length_cons]; omega)
      have others := foldl_itemTokens false (head.toNode :: done) frames tail (by omega)
      rw [itemTokens, List.append_assoc, List.foldl_append, first]
      cases tail with
      | nil =>
          change Reading.afterValue (atDepth frames (.array (done.reverse ++ [head.toNode]) none))
            frames = _
          rw [atDepth_of_room (by omega)]
          rfl
      | cons next more =>
          have rest := others (List.cons_ne_nil next more)
          rw [List.reverse_cons, List.append_assoc, List.singleton_append] at rest
          exact rest

theorem foldl_memberTokens (canClose : Bool) (done : List (Key × Node)) (frames : List Frame) :
    (members : List (String × Value)) → frames.length + (memberNesting members + 1) ≤ depthLimit →
      members ≠ [] →
        (memberTokens members ++ [Token.closeObject]).foldl Reading.step
            (.beforeKey canClose done frames) =
          .afterValue (.object (done.reverse ++ memberNodes members) none) frames
  | [], _, notNil => absurd rfl notNil
  | (name, head) :: tail, fits, _ => by
      rw [memberNesting] at fits
      have first := foldl_tokens false (.members done (.ok name.toList) :: frames) head
        (by rw [List.length_cons]; omega)
      have others := foldl_memberTokens false ((.ok name.toList, head.toNode) :: done) frames tail
        (by omega)
      have opened : ((Reading.beforeKey canClose done frames).step (.text (.ok name.toList))).step
          .colon = .beforeValue false (.members done (.ok name.toList) :: frames) := rfl
      rw [memberTokens, List.append_assoc, List.cons_append, List.cons_append, List.foldl_cons,
        List.foldl_cons, opened, List.foldl_append, first]
      cases tail with
      | nil =>
          change Reading.afterValue (atDepth frames
            (.object (done.reverse ++ [(.ok name.toList, head.toNode)]) none)) frames = _
          rw [atDepth_of_room (by omega)]
          rfl
      | cons next more =>
          have rest := others (List.cons_ne_nil next more)
          rw [List.reverse_cons, List.append_assoc, List.singleton_append] at rest
          exact rest

end

/-- A written value is read as it was. -/
theorem readDocument_write {layout : Layout} (blank : layout.Blank) {value : Value}
    (readable : ∀ number ∈ value.numbers, number.Readable) (fits : value.nesting ≤ depthLimit) :
    readDocument (value.write layout 0) = ⟨value.toNode, false⟩ := by
  have written := tokens_write blank value 0 readable [] endsNumeral_nil
  rw [List.append_nil, tokens_nil, List.append_nil] at written
  rw [readDocument, written, Reading.start, foldl_tokens false [] value (by simpa using fits)]
  rfl

theorem decodeDocument_write {α : Type} (decode : Decoder α) {layout : Layout}
    (blank : layout.Blank) {value : Value} {read : α}
    (readable : ∀ number ∈ value.numbers, number.Readable) (fits : value.nesting ≤ depthLimit)
    (decoded : decode value.toNode = .ok read) :
    decodeDocument decode (String.ofList (value.write layout 0)) = .ok read := by
  rw [decodeDocument, String.toList_ofList, readDocument_write blank readable fits]
  simp [decoded, bind, Except.bind, pure, Except.pure]

end ExportWatch.Json

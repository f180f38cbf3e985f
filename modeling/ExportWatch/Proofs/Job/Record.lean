import ExportWatch.Job.Basic
import ExportWatch.Proofs.Json.Nesting
import ExportWatch.Proofs.Watch.Event

/-! Decoding the text of an encoded record gives the record back. -/

namespace ExportWatch

open Json

namespace Json

/-! Fields of a node are parts of the node. -/

theorem fits_checkMembers {rules : List FieldRule} {room : Nat} {members : List (Key × Node)}
    {seen fields : Fields} (fits : MembersFit room members)
    (seenFit : ∀ field ∈ seen, field.2.Fits room)
    (read : checkMembers rules seen members = .ok fields) :
    ∀ field ∈ fields, field.2.Fits room := by
  induction members generalizing seen with
  | nil =>
      cases read
      exact seenFit
  | cons head tail induction =>
      rcases head with ⟨key, node⟩
      rcases fits with ⟨nodeFits, tailFits⟩
      rw [checkMembers] at read
      rcases bind_eq_ok_iff.mp read with ⟨name, -, read⟩
      simp only [] at read
      split at read
      · rcases bind_eq_ok_iff.mp read with ⟨-, -, read⟩
        exact induction tailFits seenFit read
      · split at read
        · cases read
        · rcases bind_eq_ok_iff.mp read with ⟨-, -, read⟩
          exact induction tailFits (List.forall_mem_cons.mpr ⟨nodeFits, seenFit⟩) read

theorem fits_checkItems {rules : List FieldRule} {room : Nat} {items : List Node}
    {ending : Option Fault} {fields : Fields} (fits : ItemsFit room items)
    (read : checkItems rules items ending = .ok fields) : ∀ field ∈ fields, field.2.Fits room := by
  induction rules generalizing items fields with
  | nil =>
      cases items with
      | nil =>
          rcases map_eq_ok_iff.mp read with ⟨-, -, rfl⟩
          exact fun _ member => absurd member List.not_mem_nil
      | cons head tail => cases read
  | cons rule others induction =>
      cases items with
      | nil =>
          rw [checkItems] at read
          rcases bind_eq_ok_iff.mp read with ⟨-, -, read⟩
          split at read
          · cases read
          · exact induction fits read
      | cons head tail =>
          rw [checkItems] at read
          rcases bind_eq_ok_iff.mp read with ⟨-, -, read⟩
          rcases bind_eq_ok_iff.mp read with ⟨later, tailRead, read⟩
          cases read
          exact List.forall_mem_cons.mpr ⟨fits.1, induction fits.2 tailRead⟩

theorem fits_fields {rules : List FieldRule} {room : Nat} {node : Node} {fields : Fields}
    (fits : node.Fits room) (read : node.fields rules = .ok fields) :
    ∀ field ∈ fields, field.2.Fits (room - 1) := by
  cases node with
  | object members ending =>
      rw [Node.fields] at read
      rcases bind_eq_ok_iff.mp read with ⟨checked, inner, read⟩
      rcases bind_eq_ok_iff.mp read with ⟨-, -, read⟩
      unfold requireAll at read
      split at read
      · cases read
        exact fits_checkMembers fits.2 (fun _ member => absurd member List.not_mem_nil) inner
      · cases read
  | array items ending => exact fits_checkItems fits.2 read
  | _ => cases read

/-! Null is told from every other value. -/

theorem eq_null_of_toValue {node : Node} (read : node.toValue = .ok .null) : node = .null := by
  cases node with
  | null => rfl
  | bool value => cases read
  | number value =>
      rcases map_eq_ok_iff.mp read with ⟨_, _, impossible⟩
      cases impossible
  | text content =>
      rcases map_eq_ok_iff.mp read with ⟨_, _, impossible⟩
      cases impossible
  | array items ending =>
      rw [Node.toValue] at read
      rcases bind_eq_ok_iff.mp read with ⟨values, _, read⟩
      rcases bind_eq_ok_iff.mp read with ⟨_, _, impossible⟩
      cases impossible
  | object members ending =>
      rw [Node.toValue] at read
      rcases bind_eq_ok_iff.mp read with ⟨values, _, read⟩
      rcases bind_eq_ok_iff.mp read with ⟨_, _, impossible⟩
      cases impossible
  | tooDeep inner => cases read
  | word fault => cases read
  | broken fault => cases read

theorem eq_null_of_toNode {value : Value} (node : value.toNode = .null) : value = .null := by
  cases value with
  | null => rfl
  | _ => cases node

end Json

namespace Job

/-- The job of a document, or one of the jobs of a list. -/
def Obtained (job : Job) : Prop :=
  (∃ text, decodeDocument decode text = .ok job) ∨
    ∃ text jobs, decodeDocument decodeAll text = .ok jobs ∧ job ∈ jobs

/-- An extent is a value that can be read inside a job, and not null. -/
def ExtentRead (job : Job) : Prop :=
  ∀ extent ∈ job.extent, extent ≠ .null ∧ extent.Decoded (depthLimit - 1)

theorem extentRead_of_decodeValue {node : Node} {extent : Value} {room : Nat}
    (fits : node.Fits room) (read : decodeOptional decodeValue node = .ok (some extent)) :
    extent ≠ .null ∧ extent.Decoded room := by
  by_cases null : node = .null
  · rw [null] at read
    cases read
  · rw [decodeOptional.eq_2 _ _ null] at read
    rcases map_eq_ok_iff.mp read with ⟨value, inner, same⟩
    cases same
    have decoded := decoded_toValue room node fits extent inner
    refine ⟨?_, decoded⟩
    rintro rfl
    exact null (eq_null_of_toValue inner)

theorem extentRead_of_decode {node : Node} {job : Job} {room : Nat} (within : room ≤ depthLimit)
    (fits : node.Fits room) (decoded : decode node = .ok job) : job.ExtentRead := by
  rcases bind_eq_ok_iff.mp decoded with ⟨fields, read, built⟩
  have fieldsFit := fits_fields fits read
  unfold ofFields at built
  rcases bind_eq_ok_iff.mp built with ⟨uid, -, built⟩
  rcases bind_eq_ok_iff.mp built with ⟨name, -, built⟩
  rcases bind_eq_ok_iff.mp built with ⟨description, -, built⟩
  rcases bind_eq_ok_iff.mp built with ⟨createdAt, -, built⟩
  rcases bind_eq_ok_iff.mp built with ⟨event, -, built⟩
  rcases bind_eq_ok_iff.mp built with ⟨area, -, built⟩
  rcases bind_eq_ok_iff.mp built with ⟨published, -, built⟩
  rcases bind_eq_ok_iff.mp built with ⟨formats, -, built⟩
  rcases bind_eq_ok_iff.mp built with ⟨given, extentRead, built⟩
  cases built
  rintro extent (isExtent : given = some extent)
  rw [isExtent, Fields.optional] at extentRead
  split at extentRead
  · next node found =>
      have nodeFits := fieldsFit _ (mem_of_lookup found)
      rcases extentRead_of_decodeValue nodeFits extentRead with ⟨notNull, inner⟩
      have smaller := inner.nesting
      exact ⟨notNull, ⟨by omega, inner.numbers, inner.again⟩⟩
  · cases extentRead

theorem extentRead_of_decodeItems {items : List Node} {jobs : List Job} {room : Nat}
    (within : room ≤ depthLimit) (fits : ItemsFit room items)
    (decoded : decodeItems decode items = .ok jobs) : ∀ job ∈ jobs, job.ExtentRead := by
  induction items generalizing jobs with
  | nil =>
      cases decoded
      exact fun _ member => absurd member List.not_mem_nil
  | cons head tail induction =>
      rw [decodeItems] at decoded
      rcases bind_eq_ok_iff.mp decoded with ⟨first, headRead, decoded⟩
      rcases bind_eq_ok_iff.mp decoded with ⟨others, tailRead, decoded⟩
      cases decoded
      exact List.forall_mem_cons.mpr
        ⟨extentRead_of_decode within fits.1 headRead, induction fits.2 tailRead⟩

theorem node_of_decodeDocument {α : Type} {decode : Decoder α} {text : String} {value : α}
    (decoded : decodeDocument decode text = .ok value) :
    decode (readDocument text.toList).node = .ok value := by
  rcases bind_eq_ok_iff.mp decoded with ⟨read, inner, ended⟩
  split at ended
  · cases ended
  · cases ended
    exact inner

theorem Obtained.extentRead {job : Job} (obtained : job.Obtained) : job.ExtentRead := by
  rcases obtained with ⟨text, decoded⟩ | ⟨text, jobs, decoded, member⟩
  · exact extentRead_of_decode (Nat.le_refl _) (fits_readDocument _)
      (node_of_decodeDocument decoded)
  · have read := node_of_decodeDocument decoded
    have fits := fits_readDocument text.toList
    generalize (readDocument text.toList).node = node at read fits
    cases node with
    | array items ending =>
        rcases bind_eq_ok_iff.mp read with ⟨values, inner, read⟩
        rcases bind_eq_ok_iff.mp read with ⟨-, -, read⟩
        cases read
        exact extentRead_of_decodeItems (Nat.sub_le _ 1) fits.2 inner job member
    | tooDeep inner => cases inner <;> cases read
    | _ => cases read

theorem decode_encode {job : Job} (extentRead : job.ExtentRead) :
    decode job.encode.toNode = .ok job := by
  have uid := decodeText_string job.uid
  have name := decodeText_string job.name
  have description := decodeText_string job.description
  have createdAt : decodeOptional decodeText (Value.optional .string job.createdAt).toNode = _ :=
    decodeOptional_textOrNull job.createdAt
  have event : decodeOptional decodeText (Value.optional .string job.event).toNode = _ :=
    decodeOptional_textOrNull job.event
  have area : decodeOptional decodeFloat (Value.optional .real job.area).toNode = .ok job.area :=
    decodeOptional_optional (fun _ _ => nofun) fun _ _ => rfl
  have formats : decodeList decodeText (Value.array (job.exportFormats.map .string)).toNode =
      .ok job.exportFormats :=
    decodeList_map fun format _ => decodeText_string format
  have extent : decodeOptional decodeValue (job.extent.getD .null).toNode = .ok job.extent := by
    cases given : job.extent with
    | none => rfl
    | some value =>
        rcases extentRead value given with ⟨notNull, decoded⟩
        have again : decodeValue value.toNode = .ok value := decoded.again
        rw [Option.getD_some, decodeOptional.eq_2 _ _ fun null => notNull (eq_null_of_toNode null),
          again]
        rfl
  have fields : job.encode.toNode.fields rules = .ok _ :=
    fields_of_fits (by decide) (.cons (FieldRule.fits_of uid) (.cons (FieldRule.fits_of name)
      (.cons (FieldRule.fits_of description) (.cons (FieldRule.fits_of createdAt)
        (.cons (FieldRule.fits_of event) (.cons (FieldRule.fits_of area)
          (.cons ⟨rfl, rfl⟩ (.cons (FieldRule.fits_of formats)
            (.cons (FieldRule.fits_of extent) .nil)))))))))
  have published : decodeBool (Value.bool job.published).toNode = .ok job.published := rfl
  rw [decode, fields]
  simp [ofFields, Fields.required, Fields.optional, fieldNode, List.lookup_cons, uid, name, description,
    createdAt, event, area, published, formats, extent, bind, Except.bind, pure, Except.pure]

/-! The numbers in the encoding of a job: its area, and those in its extent. -/

theorem numbers_encode (job : Job) :
    job.encode.numbers = job.area.toList.map .real ++ (job.extent.getD .null).numbers := by
  have area : (Value.optional .real job.area).numbers = job.area.toList.map .real := by
    cases job.area <;> rfl
  have createdAt := numbers_textOrNull job.createdAt
  have event := numbers_textOrNull job.event
  rw [textOrNull] at createdAt event
  have formats : itemNumbers (job.exportFormats.map .string) = [] := by
    rw [itemNumbers_map]
    simp [Value.numbers]
  simp [encode, Value.numbers, memberNumbers, area, createdAt, event, formats]

theorem nesting_encode {job : Job} (extentRead : job.ExtentRead) :
    job.encode.nesting ≤ depthLimit := by
  have area : (Value.optional .real job.area).nesting = 0 := by
    cases job.area <;> rfl
  have createdAt := nesting_textOrNull job.createdAt
  have event := nesting_textOrNull job.event
  rw [textOrNull] at createdAt event
  have formats : itemNesting (job.exportFormats.map .string) ≤ 0 := by
    apply itemNesting_le
    intro item member
    rcases List.mem_map.mp member with ⟨format, -, rfl⟩
    exact Nat.le_refl _
  have extent : (job.extent.getD .null).nesting ≤ depthLimit - 1 := by
    cases given : job.extent with
    | none => exact Nat.zero_le _
    | some value => exact (extentRead value given).2.nesting
  simp only [encode, Value.nesting, memberNesting, area, createdAt, event, depthLimit] at extent ⊢
  omega

end Job

end ExportWatch

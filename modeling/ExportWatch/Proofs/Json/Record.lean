import ExportWatch.Json.Decoder
import ExportWatch.Proofs.Lookup
import Mathlib.Data.List.Forall2

/-! Decoding the node of a record that was encoded with all its fields. -/

namespace ExportWatch.Json

/-! Texts, values that may be missing, and lists. -/

theorem decodeText_string (text : String) : decodeText (Value.string text).toNode = .ok text := by
  simp [decodeText, Value.toNode, Except.map]

/-- Only a missing value is written as null. -/
theorem decodeOptional_optional {α : Type} {encode : α → Value} {decode : Decoder α}
    {value : Option α} (notNull : ∀ content ∈ value, (encode content).toNode ≠ .null)
    (decoded : ∀ content ∈ value, decode (encode content).toNode = .ok content) :
    decodeOptional decode (Value.optional encode value).toNode = .ok value := by
  cases value with
  | none => rfl
  | some content =>
      have read := decoded content rfl
      rw [Value.optional, decodeOptional.eq_2 _ _ (notNull content rfl), read]
      rfl

theorem decodeItems_map {α : Type} {encode : α → Value} {decode : Decoder α} {values : List α}
    (decoded : ∀ value ∈ values, decode (encode value).toNode = .ok value) :
    decodeItems decode (itemNodes (values.map encode)) = .ok values := by
  induction values with
  | nil => rfl
  | cons head tail induction =>
      have rest := induction fun value member => decoded value (List.mem_cons_of_mem _ member)
      simp [itemNodes, decodeItems, decoded head List.mem_cons_self, rest, bind, Except.bind, pure,
        Except.pure]

theorem decodeList_map {α : Type} {encode : α → Value} {decode : Decoder α} {values : List α}
    (decoded : ∀ value ∈ values, decode (encode value).toNode = .ok value) :
    decodeList decode (Value.array (values.map encode)).toNode = .ok values := by
  simp [Value.toNode, decodeList, decodeItems_map decoded, endWith, bind, Except.bind, pure,
    Except.pure]

/-! Records. -/

/-- What the rule of a field has to say of an encoded field. -/
def FieldRule.Fits (rule : FieldRule) (entry : String × Value) : Prop :=
  rule.name = entry.1 ∧ rule.check entry.2.toNode = .ok ()

theorem FieldRule.fits_of {α : Type} {name : String} {required : Bool} {decode : Decoder α}
    {value : Value} {read : α} (decoded : decode value.toNode = .ok read) :
    (FieldRule.of name required decode).Fits (name, value) :=
  ⟨rfl, by simp [FieldRule.of, decoded, Except.map]⟩

def fieldNode (entry : String × Value) : String × Node :=
  (entry.1, entry.2.toNode)

/-- Fields that fit their rules are collected, the last one first. -/
theorem checkMembers_of_fits (rules : List FieldRule) {entries : List (String × Value)}
    {seen : Fields}
    (fits : ∀ entry ∈ entries, ∃ rule, rules.find? (·.name = entry.1) = some rule ∧ rule.Fits entry)
    (distinct : (entries.map (·.1)).Nodup)
    (apart : ∀ entry ∈ entries, entry.1 ∉ seen.map (·.1)) :
    checkMembers rules seen (memberNodes entries) =
      .ok ((entries.map fieldNode).reverse ++ seen) := by
  induction entries generalizing seen with
  | nil => rfl
  | cons entry others induction =>
      rcases fits entry List.mem_cons_self with ⟨rule, found, -, checked⟩
      have new := lookup_eq_none_iff_not_mem.mpr (apart entry List.mem_cons_self)
      rw [List.map_cons, List.nodup_cons] at distinct
      have apartOthers : ∀ other ∈ others, other.1 ∉ (fieldNode entry :: seen).map (·.1) := by
        intro other member
        rw [List.map_cons, List.mem_cons, not_or]
        refine ⟨?_, apart other (List.mem_cons_of_mem _ member)⟩
        intro same
        exact distinct.1 (same ▸ List.mem_map_of_mem member)
      have rest := induction (fun other member => fits other (List.mem_cons_of_mem _ member))
        distinct.2 apartOthers
      rw [memberNodes, checkMembers]
      simp only [String.ofList_toList, bind, Except.bind, found, new, checked, Option.isSome_none,
        Bool.false_eq_true, if_false]
      rw [List.map_cons, List.reverse_cons, List.append_assoc]
      exact rest

theorem find_of_distinct {rules : List FieldRule} (distinct : (rules.map (·.name)).Nodup)
    {rule : FieldRule} (member : rule ∈ rules) : rules.find? (·.name = rule.name) = some rule := by
  induction rules with
  | nil => cases member
  | cons head tail induction =>
      rw [List.map_cons, List.nodup_cons] at distinct
      rcases List.mem_cons.mp member with rfl | later
      · simp
      · have other : head.name ≠ rule.name := by
          intro same
          exact distinct.1 (same ▸ List.mem_map_of_mem later)
        rw [List.find?_cons_of_neg (by simpa using other)]
        exact induction distinct.2 later

theorem names_of_fits {rules : List FieldRule} {entries : List (String × Value)}
    (fits : List.Forall₂ FieldRule.Fits rules entries) :
    rules.map (·.name) = entries.map (·.1) := by
  induction fits with
  | nil => rfl
  | cons first _ induction => rw [List.map_cons, List.map_cons, induction, first.1]

theorem rule_of_fits {rules : List FieldRule} {entries : List (String × Value)}
    (fits : List.Forall₂ FieldRule.Fits rules entries) :
    ∀ entry ∈ entries, ∃ rule ∈ rules, rule.Fits entry := by
  induction fits with
  | nil =>
      intro entry member
      cases member
  | cons first _ induction =>
      intro entry member
      rcases List.mem_cons.mp member with rfl | later
      · exact ⟨_, List.mem_cons_self, first⟩
      · rcases induction entry later with ⟨rule, isRule, fit⟩
        exact ⟨rule, List.mem_cons_of_mem _ isRule, fit⟩

/-- A record with all its fields has them checked and collected. -/
theorem fields_of_fits {rules : List FieldRule} {entries : List (String × Value)}
    (distinct : (rules.map (·.name)).Nodup) (fits : List.Forall₂ FieldRule.Fits rules entries) :
    (Value.object entries).toNode.fields rules = .ok (entries.map fieldNode).reverse := by
  have names := names_of_fits fits
  have checked : checkMembers rules [] (memberNodes entries) =
      .ok ((entries.map fieldNode).reverse ++ []) := by
    apply checkMembers_of_fits
    · intro entry member
      rcases rule_of_fits fits entry member with ⟨rule, isRule, fit⟩
      exact ⟨rule, fit.1 ▸ find_of_distinct distinct isRule, fit⟩
    · exact names ▸ distinct
    · intro entry _
      exact List.not_mem_nil
  have complete : rules.all (fun rule => !rule.required ||
      (((entries.map fieldNode).reverse.lookup rule.name)).isSome) = true := by
    rw [List.all_eq_true]
    intro rule isRule
    have named : rule.name ∈ entries.map (·.1) := names ▸ List.mem_map_of_mem isRule
    have found : (entries.map fieldNode).reverse.lookup rule.name ≠ none := by
      rw [Ne, lookup_eq_none_iff_not_mem, not_not, List.map_reverse, List.mem_reverse,
        List.map_map]
      exact named
    simp [Option.isSome_iff_ne_none.mpr found]
  rw [List.append_nil] at checked
  simp [Value.toNode, Node.fields, checked, endWith, requireAll, complete, bind, Except.bind]

end ExportWatch.Json

import ExportWatch.Proofs.Json.Reading
import ExportWatch.Proofs.Outcome
import Mathlib.Data.List.Induction

/-! What values a node decodes to: they are nested no deeper than the node, their
whole numbers fit a word, their doubles are numbers, and decoding them again leaves
them as they are. -/

namespace ExportWatch.Json

/-! Members are sorted by name, each name once. -/

def Sorted (members : List (String × Value)) : Prop :=
  members.Pairwise fun first second => first.1 < second.1

theorem mem_of_mem_insertMember {name : String} {value : Value} {members : List (String × Value)}
    {entry : String × Value} (member : entry ∈ insertMember name value members) :
    entry = (name, value) ∨ entry ∈ members := by
  induction members with
  | nil => exact .inl (List.mem_singleton.mp member)
  | cons head tail induction =>
      unfold insertMember at member
      split at member
      · rcases List.mem_cons.mp member with same | later
        · exact .inl same
        · exact .inr (List.mem_cons_of_mem _ later)
      · split at member
        · exact List.mem_cons.mp member
        · rcases List.mem_cons.mp member with same | later
          · exact .inr (same ▸ List.mem_cons_self)
          · rcases induction later with same | later
            · exact .inl same
            · exact .inr (List.mem_cons_of_mem _ later)

theorem sorted_insertMember {members : List (String × Value)} (sorted : Sorted members)
    (name : String) (value : Value) : Sorted (insertMember name value members) := by
  induction members with
  | nil => exact List.pairwise_singleton _ _
  | cons head tail induction =>
      rcases List.pairwise_cons.mp sorted with ⟨least, tailSorted⟩
      unfold insertMember
      split
      · next same => exact List.pairwise_cons.mpr ⟨same ▸ least, tailSorted⟩
      · next different =>
          split
          · next less =>
              refine List.pairwise_cons.mpr ⟨?_, sorted⟩
              intro entry member
              rcases List.mem_cons.mp member with rfl | later
              · exact less
              · exact String.lt_trans less (least entry later)
          · next notLess =>
              have greater : head.1 < name :=
                Std.lt_of_le_of_ne (String.not_lt.mp notLess) fun same => different same.symm
              refine List.pairwise_cons.mpr ⟨?_, induction tailSorted⟩
              intro entry member
              rcases mem_of_mem_insertMember member with rfl | later
              · exact greater
              · exact least entry later

/-- A member that belongs behind all others is put there. -/
theorem insertMember_of_greatest {name : String} (value : Value) {members : List (String × Value)}
    (greatest : ∀ entry ∈ members, entry.1 < name) :
    insertMember name value members = members ++ [(name, value)] := by
  induction members with
  | nil => rfl
  | cons head tail induction =>
      have less := greatest head List.mem_cons_self
      have different : name ≠ head.1 := fun same => String.lt_irrefl _ (same ▸ less)
      rw [insertMember, if_neg different, if_neg (String.lt_asymm less),
        induction fun entry member => greatest entry (List.mem_cons_of_mem _ member)]
      rfl

theorem mem_of_mem_sortMembers {members : List (String × Value)} {entry : String × Value}
    (member : entry ∈ sortMembers members) : entry ∈ members := by
  induction members using List.reverseRecOn with
  | nil => exact member
  | append_singleton before last induction =>
      rw [sortMembers, List.foldl_append] at member
      rcases mem_of_mem_insertMember member with rfl | earlier
      · exact List.mem_append_right _ (List.mem_singleton_self _)
      · exact List.mem_append_left _ (induction earlier)

theorem sorted_sortMembers (members : List (String × Value)) : Sorted (sortMembers members) := by
  induction members using List.reverseRecOn with
  | nil => exact .nil
  | append_singleton before last induction =>
      rw [sortMembers, List.foldl_append]
      exact sorted_insertMember induction last.1 last.2

theorem sortMembers_of_sorted {members : List (String × Value)} (sorted : Sorted members) :
    sortMembers members = members := by
  induction members using List.reverseRecOn with
  | nil => rfl
  | append_singleton before last induction =>
      rcases List.pairwise_append.mp sorted with ⟨beforeSorted, -, less⟩
      have kept := induction beforeSorted
      rw [sortMembers] at kept
      rw [sortMembers, List.foldl_append, kept]
      exact insertMember_of_greatest last.2 fun entry member =>
        less entry member last (List.mem_singleton_self _)

/-! Nodes whose containers are nested no deeper than there is room for, whose whole
numbers fit a word, and whose doubles are numbers. -/

def Number.Fits : Number → Prop
  | .whole value => InWord value
  | .real value => value.isNaN = false

mutual

def Node.Fits (room : Nat) : Node → Prop
  | .number (.ok number) => number.Fits
  | .array items _ => 0 < room ∧ ItemsFit (room - 1) items
  | .object members _ => 0 < room ∧ MembersFit (room - 1) members
  | _ => True

def ItemsFit (room : Nat) : List Node → Prop
  | [] => True
  | head :: tail => head.Fits room ∧ ItemsFit room tail

def MembersFit (room : Nat) : List (Key × Node) → Prop
  | [] => True
  | (_, head) :: tail => head.Fits room ∧ MembersFit room tail

end

theorem itemsFit_iff {room : Nat} {items : List Node} :
    ItemsFit room items ↔ ∀ item ∈ items, item.Fits room := by
  induction items with
  | nil => simp [ItemsFit]
  | cons head tail induction => simp [ItemsFit, induction]

theorem membersFit_iff {room : Nat} {members : List (Key × Node)} :
    MembersFit room members ↔ ∀ member ∈ members, member.2.Fits room := by
  induction members with
  | nil => simp [MembersFit]
  | cons head tail induction => simp [MembersFit, induction]

/-- What is known of a value that was decoded from such a node. -/
structure Value.Decoded (room : Nat) (value : Value) : Prop where
  nesting : value.nesting ≤ room
  numbers : ∀ number ∈ value.numbers, number.Fits
  again : value.toNode.toValue = .ok value

theorem mem_itemNumbers {items : List Value} {number : Number}
    (member : number ∈ itemNumbers items) :
    ∃ item ∈ items, number ∈ item.numbers := by
  induction items with
  | nil => cases member
  | cons head tail induction =>
      rcases List.mem_append.mp member with first | later
      · exact ⟨head, List.mem_cons_self, first⟩
      · rcases induction later with ⟨item, isItem, inside⟩
        exact ⟨item, List.mem_cons_of_mem _ isItem, inside⟩

theorem mem_memberNumbers {members : List (String × Value)} {number : Number}
    (member : number ∈ memberNumbers members) : ∃ entry ∈ members, number ∈ entry.2.numbers := by
  induction members with
  | nil => cases member
  | cons head tail induction =>
      rcases List.mem_append.mp member with first | later
      · exact ⟨head, List.mem_cons_self, first⟩
      · rcases induction later with ⟨entry, isEntry, inside⟩
        exact ⟨entry, List.mem_cons_of_mem _ isEntry, inside⟩

theorem itemValues_itemNodes {items : List Value}
    (again : ∀ item ∈ items, item.toNode.toValue = .ok item) :
    itemValues (itemNodes items) = .ok items := by
  induction items with
  | nil => rfl
  | cons head tail induction =>
      have rest := induction fun item member => again item (List.mem_cons_of_mem _ member)
      simp [itemNodes, itemValues, again head List.mem_cons_self, rest, bind, Except.bind, pure,
        Except.pure]

theorem memberValues_memberNodes {members : List (String × Value)}
    (again : ∀ member ∈ members, member.2.toNode.toValue = .ok member.2) :
    memberValues (memberNodes members) = .ok members := by
  induction members with
  | nil => rfl
  | cons head tail induction =>
      have rest := induction fun member isMember => again member (List.mem_cons_of_mem _ isMember)
      simp [memberNodes, memberValues, again head List.mem_cons_self, rest, bind, Except.bind, pure,
        Except.pure]

theorem Value.Decoded.array {room : Nat} {items : List Value} (positive : 0 < room)
    (decoded : ∀ item ∈ items, item.Decoded (room - 1)) : (Value.array items).Decoded room where
  nesting := by
    have inner := itemNesting_le fun item member => (decoded item member).nesting
    rw [Value.nesting]
    omega
  numbers := by
    intro number member
    rcases mem_itemNumbers member with ⟨item, isItem, inside⟩
    exact (decoded item isItem).numbers number inside
  again := by
    have items := itemValues_itemNodes fun item member => (decoded item member).again
    simp [Value.toNode, Node.toValue, items, endWith, bind, Except.bind, pure, Except.pure]

theorem Value.Decoded.object {room : Nat} {members : List (String × Value)} (positive : 0 < room)
    (decoded : ∀ member ∈ members, member.2.Decoded (room - 1)) :
    (Value.object (sortMembers members)).Decoded room where
  nesting := by
    have inner := memberNesting_le fun member (isMember : member ∈ sortMembers members) =>
      (decoded member (mem_of_mem_sortMembers isMember)).nesting
    rw [Value.nesting]
    omega
  numbers := by
    intro number member
    rcases mem_memberNumbers member with ⟨entry, isEntry, inside⟩
    exact (decoded entry (mem_of_mem_sortMembers isEntry)).numbers number inside
  again := by
    have values := memberValues_memberNodes fun member (isMember : member ∈ sortMembers members) =>
      (decoded member (mem_of_mem_sortMembers isMember)).again
    have kept := sortMembers_of_sorted (sorted_sortMembers members)
    simp [Value.toNode, Node.toValue, values, kept, endWith, bind, Except.bind, pure, Except.pure]

mutual

theorem decoded_toValue (room : Nat) : (node : Node) → node.Fits room → (value : Value) →
    node.toValue = .ok value → value.Decoded room
  | .null, _, value, read => by
      cases read
      exact ⟨Nat.zero_le _, nofun, rfl⟩
  | .bool content, _, value, read => by
      cases read
      exact ⟨Nat.zero_le _, nofun, rfl⟩
  | .number (.ok number), fits, value, read => by
      cases read
      exact ⟨Nat.zero_le _, fun _ member => List.mem_singleton.mp member ▸ fits, rfl⟩
  | .number (.error fault), _, value, read => nomatch read
  | .text (.ok text), _, value, read => by
      cases read
      exact ⟨Nat.zero_le _, nofun, by simp [Value.toNode, Node.toValue, Except.map]⟩
  | .text (.error fault), _, value, read => nomatch read
  | .array items ending, ⟨positive, fits⟩, value, read => by
      rw [Node.toValue] at read
      rcases bind_eq_ok_iff.mp read with ⟨values, inner, read⟩
      rcases bind_eq_ok_iff.mp read with ⟨-, -, read⟩
      cases read
      exact .array positive (decoded_itemValues (room - 1) items fits values inner)
  | .object members ending, ⟨positive, fits⟩, value, read => by
      rw [Node.toValue] at read
      rcases bind_eq_ok_iff.mp read with ⟨values, inner, read⟩
      rcases bind_eq_ok_iff.mp read with ⟨-, -, read⟩
      cases read
      exact .object positive (decoded_memberValues (room - 1) members fits values inner)
  | .tooDeep inner, _, value, read => nomatch read
  | .word fault, _, value, read => nomatch read
  | .broken fault, _, value, read => nomatch read

theorem decoded_itemValues (room : Nat) : (items : List Node) → ItemsFit room items →
    (values : List Value) → itemValues items = .ok values → ∀ value ∈ values, value.Decoded room
  | [], _, values, read => by
      cases read
      exact fun _ member => nomatch member
  | head :: tail, ⟨headFits, tailFits⟩, values, read => by
      rw [itemValues] at read
      rcases bind_eq_ok_iff.mp read with ⟨first, headRead, read⟩
      rcases bind_eq_ok_iff.mp read with ⟨others, tailRead, read⟩
      cases read
      intro value member
      rcases List.mem_cons.mp member with rfl | later
      · exact decoded_toValue room head headFits value headRead
      · exact decoded_itemValues room tail tailFits others tailRead value later

theorem decoded_memberValues (room : Nat) : (members : List (Key × Node)) →
    MembersFit room members → (values : List (String × Value)) →
      memberValues members = .ok values → ∀ member ∈ values, member.2.Decoded room
  | [], _, values, read => by
      cases read
      exact fun _ member => nomatch member
  | (key, head) :: tail, ⟨headFits, tailFits⟩, values, read => by
      rw [memberValues] at read
      rcases bind_eq_ok_iff.mp read with ⟨name, -, read⟩
      rcases bind_eq_ok_iff.mp read with ⟨first, headRead, read⟩
      rcases bind_eq_ok_iff.mp read with ⟨others, tailRead, read⟩
      cases read
      intro entry member
      rcases List.mem_cons.mp member with rfl | later
      · exact decoded_toValue room head headFits first headRead
      · exact decoded_memberValues room tail tailFits others tailRead entry later

end

end ExportWatch.Json

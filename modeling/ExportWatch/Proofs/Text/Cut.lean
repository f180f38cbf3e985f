import ExportWatch.Text.Cut

/-! The parts of texts that are put together at a mark, and what stands on both sides of the first
one. -/

namespace ExportWatch.Text

section Decidable

variable {holds : Char → Prop} [DecidablePred holds]

/-! What holds of every character of a text is decided along the text, not for all characters that
there are. -/

instance decidableForallInText (text : List Char) :
    Decidable (∀ character ∈ text, holds character) :=
  List.decidableBAll holds text

instance decidableForallFound (found : Option Char) :
    Decidable (∀ character ∈ found, holds character) :=
  decidable_of_iff (∀ character ∈ found.toList, holds character) (by simp)

end Decidable

variable {mark : Char}

theorem parts_of_not_mem {text : List Char} (absent : mark ∉ text) : parts mark text = [text] := by
  induction text with
  | nil => rfl
  | cons head tail induction =>
      rw [List.mem_cons, not_or] at absent
      rw [parts, if_neg (Ne.symm absent.1), induction absent.2]

theorem parts_append (before after : List Char) :
    parts mark (before ++ mark :: after) = parts mark before ++ parts mark after := by
  induction before with
  | nil => simp [parts]
  | cons head tail induction =>
      by_cases same : head = mark
      · simp [parts, same, induction]
      · have filled := parts_ne_nil mark tail
        rw [List.cons_append, parts, if_neg same, induction, parts, if_neg same]
        cases first : parts mark tail with
        | nil => contradiction
        | cons part others => rfl

theorem parts_append_left {before text part : List Char} {others : List (List Char)}
    (absent : mark ∉ before) (cut : parts mark text = part :: others) :
    parts mark (before ++ text) = (before ++ part) :: others := by
  induction before with
  | nil => exact cut
  | cons head tail induction =>
      rw [List.mem_cons, not_or] at absent
      rw [List.cons_append, parts, if_neg (Ne.symm absent.1), induction absent.2]
      rfl

/-- No part holds the mark. -/
theorem not_mem_of_mem_parts {text part : List Char} (member : part ∈ parts mark text) :
    mark ∉ part := by
  induction text generalizing part with
  | nil =>
      rw [List.mem_singleton.mp member]
      exact List.not_mem_nil
  | cons head tail induction =>
      by_cases same : head = mark
      · rw [parts, if_pos same] at member
        rcases List.mem_cons.mp member with rfl | later
        · exact List.not_mem_nil
        · exact induction later
      · rw [parts, if_neg same] at member
        cases inner : parts mark tail with
        | nil => exact absurd inner (parts_ne_nil mark tail)
        | cons first others =>
            rw [inner] at member induction
            rcases List.mem_cons.mp member with rfl | later
            · rw [List.mem_cons, not_or]
              exact ⟨Ne.symm same, induction List.mem_cons_self⟩
            · exact induction (List.mem_cons_of_mem _ later)

theorem sublist_of_mem_parts {text part : List Char} (member : part ∈ parts mark text) :
    part.Sublist text := by
  induction text generalizing part with
  | nil => exact List.mem_singleton.mp member ▸ List.nil_sublist _
  | cons head tail induction =>
      rw [parts] at member
      split at member
      · rcases List.mem_cons.mp member with rfl | later
        · exact List.nil_sublist _
        · exact (induction later).cons head
      · cases inner : parts mark tail with
        | nil => exact absurd inner (parts_ne_nil mark tail)
        | cons first others =>
            rw [inner] at member induction
            rcases List.mem_cons.mp member with rfl | later
            · exact (induction List.mem_cons_self).cons_cons head
            · exact (induction (List.mem_cons_of_mem _ later)).cons head

theorem parts_join {pieces : List (List Char)} (filled : pieces ≠ [])
    (bare : ∀ piece ∈ pieces, mark ∉ piece) : parts mark (join [mark] pieces) = pieces := by
  induction pieces with
  | nil => contradiction
  | cons first others induction =>
      rw [List.forall_mem_cons] at bare
      cases others with
      | nil => rw [join, List.intercalate_singleton, parts_of_not_mem bare.1]
      | cons next others =>
          have shape : join [mark] (first :: next :: others) =
              first ++ mark :: join [mark] (next :: others) := by
            simp [join, List.intercalate_cons_cons]
          rw [shape, parts_append, parts_of_not_mem bare.1,
            induction (List.cons_ne_nil _ _) bare.2, List.singleton_append]

/-! A mark is looked for by its first character. -/

section Marks

variable (others : List Char)

theorem afterStart_append (start rest : List Char) :
    afterStart start (start ++ rest) = some rest := by
  induction start with
  | nil => rfl
  | cons first others induction => rw [List.cons_append, afterStart, if_pos rfl, induction]

theorem cut_cons {head : Char} (other : mark ≠ head) (tail : List Char) :
    cut (mark :: others) (head :: tail) =
      (cut (mark :: others) tail).map fun (before, after) => (head :: before, after) := by
  rw [cut, afterStart, if_neg other]

theorem cut_of_not_mem {text : List Char} (absent : mark ∉ text) :
    cut (mark :: others) text = none := by
  induction text with
  | nil => rfl
  | cons head tail induction =>
      rw [List.mem_cons, not_or] at absent
      rw [cut_cons others absent.1, induction absent.2]
      rfl

theorem cut_append {before : List Char} (absent : mark ∉ before) (after : List Char) :
    cut (mark :: others) (before ++ (mark :: others ++ after)) = some (before, after) := by
  induction before with
  | nil => rw [List.nil_append, List.cons_append, cut, ← List.cons_append, afterStart_append]
  | cons head tail induction =>
      rw [List.mem_cons, not_or] at absent
      rw [List.cons_append, cut_cons others absent.1, induction absent.2]
      rfl

end Marks

theorem cutAt_of_not_mem {text : List Char} (absent : mark ∉ text) : cutAt mark text = none :=
  cut_of_not_mem [] absent

theorem cutAt_append {before : List Char} (absent : mark ∉ before) (after : List Char) :
    cutAt mark (before ++ mark :: after) = some (before, after) :=
  cut_append [] absent after

/-- A text has one first mark. -/
theorem eq_of_marked {before otherBefore after otherAfter : List Char} (absent : mark ∉ before)
    (otherAbsent : mark ∉ otherBefore)
    (same : before ++ mark :: after = otherBefore ++ mark :: otherAfter) :
    before = otherBefore ∧ after = otherAfter := by
  have found := cutAt_append absent after
  rw [same, cutAt_append otherAbsent] at found
  cases found
  exact ⟨rfl, rfl⟩

end ExportWatch.Text

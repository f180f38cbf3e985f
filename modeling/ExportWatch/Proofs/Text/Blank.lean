import ExportWatch.Text.Blank
import Mathlib.Data.List.Basic
import Mathlib.Data.List.TakeWhile

/-! Blank characters around a text. -/

namespace ExportWatch.Text

/-- No blank character stands at either end. -/
structure Tight (text : List Char) : Prop where
  starts : ∀ head ∈ text.head?, isBlank head = false
  ends : ∀ last ∈ text.getLast?, isBlank last = false

theorem Tight.of_forall {text : List Char} (solid : ∀ character ∈ text, isBlank character = false) :
    Tight text where
  starts := fun head first => solid head (List.mem_of_mem_head? first)
  ends := fun last final => solid last (List.mem_of_getLast? final)

/-- Nothing is dropped from a text that starts with another character. -/
theorem dropWhile_of_head {drops : Char → Bool} {text : List Char}
    (starts : ∀ head ∈ text.head?, drops head = false) : text.dropWhile drops = text := by
  cases text with
  | nil => rfl
  | cons head tail =>
      rw [List.dropWhile_cons, if_neg]
      rw [starts head rfl]
      exact Bool.false_ne_true

theorem reverse_dropWhile_append {drops : Char → Bool} {text after : List Char}
    (dropped : ∀ character ∈ after, drops character = true)
    (ends : ∀ last ∈ text.getLast?, drops last = false) :
    ((text ++ after).reverse.dropWhile drops).reverse = text := by
  have reversed : ∀ character ∈ after.reverse, drops character = true :=
    fun character member => dropped character (List.mem_reverse.mp member)
  rw [List.reverse_append, List.dropWhile_append_of_pos reversed,
    dropWhile_of_head (by rwa [List.head?_reverse]), List.reverse_reverse]

/-- What stands behind a character that is not dropped is left alone. -/
theorem dropWhile_append_cons {drops : Char → Bool} {mark : Char} (kept : drops mark = false)
    (before after : List Char) :
    (before ++ mark :: after).dropWhile drops = before.dropWhile drops ++ mark :: after := by
  induction before with
  | nil => simp [kept]
  | cons head tail induction =>
      rw [List.cons_append, List.dropWhile_cons, List.dropWhile_cons, induction]
      split <;> rfl

theorem allBlank_iff {text : List Char} :
    allBlank text = true ↔ ∀ character ∈ text, isBlank character = true :=
  List.all_eq_true

theorem not_mem_of_allBlank {text : List Char} {mark : Char} (blank : allBlank text = true)
    (solid : isBlank mark = false) : mark ∉ text := by
  intro member
  rw [allBlank_iff.mp blank mark member] at solid
  cases solid

theorem trimStart_append {before text : List Char} (blank : allBlank before = true)
    (starts : ∀ head ∈ text.head?, isBlank head = false) : trimStart (before ++ text) = text := by
  rw [trimStart, List.dropWhile_append_of_pos (allBlank_iff.mp blank), dropWhile_of_head starts]

theorem trimEnd_append {text after : List Char} (blank : allBlank after = true)
    (ends : ∀ last ∈ text.getLast?, isBlank last = false) : trimEnd (text ++ after) = text :=
  reverse_dropWhile_append (allBlank_iff.mp blank) ends

theorem trim_padded {before text after : List Char} (blankBefore : allBlank before = true)
    (blankAfter : allBlank after = true) (tight : Tight text) :
    trim (before ++ text ++ after) = text := by
  cases text with
  | nil =>
      have blank : ∀ character ∈ before ++ [] ++ after, isBlank character = true := by
        intro character member
        rw [List.append_nil, List.mem_append] at member
        exact member.elim (allBlank_iff.mp blankBefore character)
          (allBlank_iff.mp blankAfter character)
      rw [trim, trimStart, List.dropWhile_eq_nil_iff.mpr blank]
      rfl
  | cons head tail =>
      have starts : trimStart (before ++ (head :: tail ++ after)) = head :: tail ++ after :=
        trimStart_append blankBefore tight.starts
      rw [trim, List.append_assoc, starts, trimEnd_append blankAfter tight.ends]

theorem Tight.trim_eq {text : List Char} (tight : Tight text) : trim text = text := by
  have padded : trim ([] ++ text ++ []) = text := trim_padded rfl rfl tight
  rwa [List.nil_append, List.append_nil] at padded

/-! The first word of a text. -/

theorem wordsFrom_append {word : List Char} (solid : ∀ character ∈ word, isBlank character = false)
    (current rest : List Char) :
    wordsFrom current (word ++ rest) = wordsFrom (word.reverse ++ current) rest := by
  induction word generalizing current with
  | nil => rfl
  | cons head tail induction =>
      rw [List.forall_mem_cons] at solid
      rw [List.cons_append, wordsFrom, solid.1, if_neg Bool.false_ne_true, induction solid.2,
        List.reverse_cons, List.append_assoc, List.singleton_append]

theorem head?_words {word rest : List Char} (filled : word ≠ [])
    (solid : ∀ character ∈ word, isBlank character = false)
    (apart : ∀ head ∈ rest.head?, isBlank head = true) :
    (words (word ++ rest)).head? = some word := by
  have current : word.reverse.isEmpty = false := by
    rwa [List.isEmpty_reverse, List.isEmpty_eq_false_iff]
  rw [words, wordsFrom_append solid, List.append_nil]
  cases rest with
  | nil => rw [wordsFrom, current, if_neg Bool.false_ne_true, List.reverse_reverse, List.head?_cons]
  | cons head tail =>
      rw [wordsFrom, apart head rfl, if_pos rfl, current, if_neg Bool.false_ne_true,
        List.reverse_reverse, List.head?_cons]

end ExportWatch.Text

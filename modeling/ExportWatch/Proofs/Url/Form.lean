import ExportWatch.Proofs.Text.Cut
import ExportWatch.Proofs.Url.Decoded
import ExportWatch.Url.Reference

/-! Reading a query as the fields of a form. Fields that were written are read back, whatever
characters are in them. -/

namespace ExportWatch.Url

open Text

/-! A plus sign stands for a space, and a field without an equals sign has no value. -/

def spaced (character : Char) : Char :=
  if character = '+' then ' ' else character

def formText? (text : List Char) : Option (List Char) :=
  Host.decoded? (text.map spaced)

def formField? (piece : List Char) : Option (List Char × List Char) :=
  let (name, value) := (cutAt '=' piece).getD (piece, [])
  match formText? name, formText? value with
  | some name, some value => some (name, value)
  | _, _ => none

def formFields? (query : List Char) : Option (List (List Char × List Char)) :=
  ((parts '&' query).filter (· ≠ [])).mapM formField?

example : formFields? "a=1+%2B&&b".toList = some [(['a'], "1 +".toList), (['b'], [])] := by
  decide +kernel

/-! Characters. -/

theorem mem_formCharacter {character written : Char} (member : written ∈ formCharacter character) :
    keptInForm written = true ∨ written = '+' ∨ written = '%' := by
  have digits : ∀ value < 16, keptInForm (hexDigit value) = true := by decide
  rw [formCharacter] at member
  split at member
  · exact .inr (.inl (List.mem_singleton.mp member))
  · split at member
    · next kept => exact .inl (List.mem_singleton.mp member ▸ kept)
    · rcases mem_percentCharacter member with mark | ⟨value, small, rfl⟩
      · exact .inr (.inr mark)
      · exact .inl (digits value small)

theorem not_mem_formText {mark : Char} (notKept : keptInForm mark = false) (notPlus : mark ≠ '+')
    (notPercent : mark ≠ '%') (text : List Char) : mark ∉ text.flatMap formCharacter := by
  rw [List.mem_flatMap]
  rintro ⟨character, -, member⟩
  rcases mem_formCharacter member with kept | plus | percent
  · rw [notKept] at kept
    cases kept
  · exact notPlus plus
  · exact notPercent percent

theorem map_spaced_percentCharacter (character : Char) :
    (percentCharacter character).map spaced = percentCharacter character := by
  have digits : ∀ value < 16, spaced (hexDigit value) = hexDigit value := by decide
  have same : ∀ written ∈ percentCharacter character, spaced written = id written := by
    intro written member
    rcases mem_percentCharacter member with rfl | ⟨value, small, rfl⟩
    · rfl
    · exact digits value small
  rw [List.map_congr_left same, List.map_id]

theorem percentBytes_formCharacter (character : Char) (rest : List Char) :
    Host.percentBytes ((formCharacter character).map spaced ++ rest) =
      String.utf8EncodeChar character ++ Host.percentBytes rest := by
  rw [formCharacter]
  split
  · next space =>
      rw [space]
      exact Host.percentBytes_cons (by decide) rest
  · split
    · next kept =>
        have other : character ≠ '+' ∧ character ≠ '%' := by
          constructor <;> rintro rfl <;> cases kept
        rw [List.map_singleton, spaced, if_neg other.1]
        exact Host.percentBytes_cons other.2 rest
    · rw [map_spaced_percentCharacter, Host.percentBytes_percentCharacter]

theorem formText?_written (text : List Char) :
    formText? (text.flatMap formCharacter) = some text := by
  rw [formText?, Host.decoded?_eq_some_iff]
  induction text with
  | nil => rfl
  | cons head tail induction =>
      rw [List.flatMap_cons, List.map_append, percentBytes_formCharacter, induction]
      rfl

/-! Fields. -/

theorem formField?_formField (name value : List Char) :
    formField? (formField name value) = some (name, value) := by
  have bare : '=' ∉ name.flatMap formCharacter :=
    not_mem_formText (by decide) (by decide) (by decide) name
  rw [formField?, formField, cutAt_append bare]
  simp [formText?_written]

theorem not_mem_formField (name value : List Char) : '&' ∉ formField name value := by
  have bare (text : List Char) : '&' ∉ text.flatMap formCharacter :=
    not_mem_formText (by decide) (by decide) (by decide) text
  rw [formField, List.mem_append, List.mem_cons, not_or, not_or]
  exact ⟨bare name, by decide, bare value⟩

theorem formField_ne_nil (name value : List Char) : formField name value ≠ [] := by
  simp [formField]

theorem mapM_formField? (fields : List (List Char × List Char)) :
    (fields.map fun (name, value) => formField name value).mapM formField? = some fields := by
  induction fields with
  | nil => rfl
  | cons first others induction =>
      rw [List.map_cons, List.mapM_cons, formField?_formField, induction]
      rfl

theorem formFields?_written (fields : List (List Char × List Char)) :
    formFields? (join ['&'] (fields.map fun (name, value) => formField name value)) =
      some fields := by
  have pieces : ∀ piece ∈ fields.map fun (name, value) => formField name value,
      '&' ∉ piece ∧ piece ≠ [] := by
    intro piece member
    rcases List.mem_map.mp member with ⟨⟨name, value⟩, -, rfl⟩
    exact ⟨not_mem_formField name value, formField_ne_nil name value⟩
  by_cases empty : fields = []
  · rw [empty]
    rfl
  · have filled : (fields.map fun (name, value) => formField name value) ≠ [] :=
      fun none => empty (List.map_eq_nil_iff.mp none)
    rw [formFields?, parts_join filled fun piece member => (pieces piece member).1,
      List.filter_eq_self.mpr (by simpa using fun piece member => (pieces piece member).2),
      mapM_formField?]

/-- The fields with their names as texts. -/
def fieldTexts (fields : List (String × List Char)) : List (List Char × List Char) :=
  fields.map fun (name, value) => (name.toList, value)

theorem fieldTexts_append (first second : List (String × List Char)) :
    fieldTexts (first ++ second) = fieldTexts first ++ fieldTexts second :=
  List.map_append

/-- Fields change nothing but the query. -/
theorem withFields_eq (url : Url) (fields : List (String × List Char)) :
    url.withFields fields = { url with query := (url.withFields fields).query } := by
  cases fields <;> rfl

theorem query_withFields {url : Url} (bare : url.query = none)
    (fields : List (String × List Char)) :
    ((url.withFields fields).query = none ↔ fields = []) ∧
      formFields? ((url.withFields fields).query.getD []) =
        some (fieldTexts fields) := by
  cases fields with
  | nil => exact ⟨iff_of_true bare rfl, by rw [withFields, List.isEmpty_nil, if_pos rfl, bare]; rfl⟩
  | cons first others =>
      refine ⟨iff_of_false (by simp [withFields]) (by simp), ?_⟩
      have written := formFields?_written (fieldTexts (first :: others))
      rw [fieldTexts, List.map_map] at written
      exact written

end ExportWatch.Url

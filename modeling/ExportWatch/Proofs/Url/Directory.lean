import ExportWatch.Proofs.Url.Path

/-! Addresses whose path ends in a slash, which a reference can go on from. -/

namespace ExportWatch.Url

open Text

/-- The segments up to the last slash. -/
def directory (names : List (List Char)) : List (List Char) :=
  if names.getLast? = some [] then names.dropLast else names

def withEndingSlash (text : List Char) : List Char :=
  if text.getLast? = some '/' then text else text ++ ['/']

theorem directory_append_empty {names : List (List Char)} (ended : names.getLast? = some []) :
    directory names ++ [[]] = names := by
  rw [directory, if_pos ended]
  exact List.dropLast_append_getLast? _ ended

theorem directory_subset (names : List (List Char)) : directory names ⊆ names := by
  rw [directory]
  split
  · exact List.dropLast_subset names
  · exact List.Subset.refl names

theorem withSlash_segments (names : List (List Char)) :
    (UrlPath.segments names).withSlash = .segments (directory names ++ [[]]) := by
  by_cases ended : names.getLast? = some []
  · rw [UrlPath.withSlash, if_pos ended, directory_append_empty ended]
  · rw [UrlPath.withSlash, if_neg ended, directory, if_neg ended]

theorem text_append (first second : List (List Char)) :
    (UrlPath.segments (first ++ second)).text =
      (UrlPath.segments first).text ++ (UrlPath.segments second).text :=
  List.flatMap_append

theorem withEndingSlash_text {names : List (List Char)} (noSlash : ∀ name ∈ names, '/' ∉ name) :
    withEndingSlash (UrlPath.segments names).text =
      (UrlPath.segments (directory names)).text ++ ['/'] := by
  by_cases ended : names.getLast? = some []
  · have whole := text_append (directory names) [[]]
    rw [directory_append_empty ended] at whole
    have slash : (UrlPath.segments [[]]).text = ['/'] := rfl
    rw [withEndingSlash, whole, slash, if_pos List.getLast?_concat]
  · rw [directory, if_neg ended, withEndingSlash, if_neg]
    intro slash
    rcases List.eq_nil_or_concat names with rfl | ⟨others, last, rfl⟩
    · cases slash
    · rw [List.concat_eq_append] at *
      have filled : last ≠ [] := by
        rintro rfl
        exact ended List.getLast?_concat
      have tail : (UrlPath.segments [last]).text = '/' :: last := by simp [UrlPath.text]
      rw [text_append, tail, List.getLast?_append_of_ne_nil _ (List.cons_ne_nil _ _),
        List.getLast?_cons_of_ne_nil filled] at slash
      exact noSlash last (by simp) (List.mem_of_getLast? slash)

theorem head?_directory {names : List (List Char)} (rooted : withoutEmptyStart names = names) :
    (directory names).head? ≠ some [] := by
  have notEmpty := not_empty_start rooted
  intro empty
  rw [directory] at empty
  split at empty
  · rcases names with _ | ⟨first, _ | ⟨second, others⟩⟩
    · cases empty
    · cases empty
    · rw [List.dropLast_cons_cons, List.head?_cons, Option.some.injEq] at empty
      exact notEmpty second others (by rw [empty])
  · next notEnded =>
      rcases names with _ | ⟨first, _ | ⟨second, others⟩⟩
      · cases empty
      · rw [List.head?_cons, Option.some.injEq] at empty
        exact notEnded (by rw [empty]; rfl)
      · rw [List.head?_cons, Option.some.injEq] at empty
        exact notEmpty second others (by rw [empty])

/-- An address whose path ends in a slash behind some names. -/
structure IsDirectory (url : Url) (names : List (List Char)) : Prop where
  path : url.path = .segments (names ++ [[]])
  rooted : isFileScheme url.scheme = true → names.head? ≠ some []

theorem isDirectory_asDirectory {text : List Char} {url : Url} {names : List (List Char)}
    (read : read? text = some url) (path : url.path = .segments names) :
    url.asDirectory.IsDirectory (directory names) where
  path := by rw [asDirectory, path, withSlash_segments]
  rooted := fun file => head?_directory ((isPath_read? read path).rooted file)

end ExportWatch.Url

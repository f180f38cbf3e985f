import ExportWatch.Proofs.Text.Cut
import ExportWatch.Proofs.Text.Percent
import ExportWatch.Url.Reference
import Mathlib.Data.List.Basic

/-! The paths of addresses that were read: no segment holds a slash, and the path of a file does
not begin with an empty segment when there are others. -/

namespace ExportWatch.Url

open Text

/-! Segments. -/

theorem not_mem_percentEncode {keeps : Char → Bool} {mark : Char} {text : List Char}
    (plain : mark ≠ '%') (notDigit : ∀ value < 16, mark ≠ hexDigit value) (absent : mark ∉ text) :
    mark ∉ percentEncode keeps text := by
  intro member
  rcases List.mem_flatMap.mp member with ⟨source, inside, member⟩
  split at member
  · rw [List.mem_singleton.mp member] at absent
    exact absent inside
  · rcases mem_percentCharacter member with same | ⟨value, small, same⟩
    · exact plain same
    · exact notDigit value small same

theorem noSlash_driveSegment {text : List Char} (bare : '/' ∉ text) : '/' ∉ driveSegment text := by
  unfold driveSegment
  split
  · split
    · next letter _ =>
        rw [List.mem_cons, not_or] at bare
        simpa using bare.1
    · exact bare
  · exact bare

theorem noSlash_segment {file : Bool} {text : List Char} (bare : '/' ∉ text) :
    '/' ∉ segment file text := by
  have encoded : '/' ∉ percentEncode keptInPath text :=
    not_mem_percentEncode (by decide) (by decide) bare
  rw [segment]
  split
  · exact noSlash_driveSegment encoded
  · exact encoded

theorem mem_of_mem_above {done : List (List Char)} {name : List Char} (member : name ∈ above done) :
    name ∈ done := by
  rw [above] at member
  split at member
  · exact member
  · exact List.dropLast_subset done member

theorem noSlash_addEach {file : Bool} {done names : List (List Char)}
    (bareDone : ∀ name ∈ done, '/' ∉ name) (bareNames : ∀ name ∈ names, '/' ∉ name) :
    ∀ name ∈ addEach file done names, '/' ∉ name := by
  induction names generalizing done with
  | nil => exact bareDone
  | cons head tail induction =>
      rw [List.forall_mem_cons] at bareNames
      have bareEnding : ∀ name ∈ (if tail.isEmpty then [[]] else [] : List (List Char)),
          '/' ∉ name := by
        split <;> simp
      rw [addEach]
      split
      · refine induction ?_ bareNames.2
        rw [List.forall_mem_append]
        exact ⟨fun name member => bareDone name (mem_of_mem_above member), bareEnding⟩
      · split
        · refine induction ?_ bareNames.2
          rw [List.forall_mem_append]
          exact ⟨bareDone, bareEnding⟩
        · refine induction ?_ bareNames.2
          rw [List.forall_mem_append, List.forall_mem_singleton]
          exact ⟨bareDone, noSlash_segment bareNames.1⟩

/-! Empty segments at the start. -/

theorem suffix_withoutEmptyStart (names : List (List Char)) :
    withoutEmptyStart names <:+ names := by
  fun_induction withoutEmptyStart names with
  | case1 next others induction => exact induction.trans (List.suffix_cons _ _)
  | case2 names _ => exact List.suffix_refl _

theorem withoutEmptyStart_idem (names : List (List Char)) :
    withoutEmptyStart (withoutEmptyStart names) = withoutEmptyStart names := by
  fun_induction withoutEmptyStart names with
  | case1 next others induction => exact induction
  | case2 names other => rw [withoutEmptyStart.eq_2 _ other]

theorem withoutEmptyStart_of_head {names : List (List Char)} (filled : names.head? ≠ some []) :
    withoutEmptyStart names = names := by
  apply withoutEmptyStart.eq_2
  rintro next others rfl
  exact filled rfl

theorem not_empty_start {names : List (List Char)} (rooted : withoutEmptyStart names = names)
    (next : List Char) (others : List (List Char)) : names ≠ [] :: next :: others := by
  rintro rfl
  have shorter := (suffix_withoutEmptyStart (next :: others)).length_le
  rw [withoutEmptyStart] at rooted
  rw [rooted, List.length_cons] at shorter
  omega

/-! Paths. -/

structure IsPath (scheme : List Char) (names : List (List Char)) : Prop where
  noSlash : ∀ name ∈ names, '/' ∉ name
  rooted : isFileScheme scheme = true → withoutEmptyStart names = names

theorem noSlash_addSegments {file : Bool} {done : List (List Char)}
    (bareDone : ∀ name ∈ done, '/' ∉ name) (rest : List Char) :
    ∀ name ∈ addSegments file done (parts '/' rest), '/' ∉ name := by
  have bare : ∀ name ∈ addEach file done (parts '/' rest), '/' ∉ name :=
    noSlash_addEach bareDone fun name member => not_mem_of_mem_parts member
  rw [addSegments]
  split
  · exact fun name member => bare name ((suffix_withoutEmptyStart _).subset member)
  · exact bare

theorem isPath_addSegments (scheme rest : List Char) :
    IsPath scheme (addSegments (isFileScheme scheme) [] (parts '/' rest)) where
  noSlash := noSlash_addSegments (by simp) rest
  rooted := fun file => by rw [addSegments, if_pos file, withoutEmptyStart_idem]

theorem isPath_pathFrom {scheme front : List Char} {names : List (List Char)}
    (path : pathFrom scheme front = .segments names) : IsPath scheme names := by
  unfold pathFrom at path
  split at path
  · cases path
    exact isPath_addSegments scheme _
  · cases path
    split
    · exact ⟨by simp, fun _ => rfl⟩
    · exact ⟨by simp, fun _ => rfl⟩
  · cases path
    exact isPath_addSegments scheme _

/-- The path is made of segments as they follow a host, or is one text. -/
def HasPath (url : Url) : Prop :=
  (∃ front, url.path = pathFrom url.scheme front) ∨ ∃ text, url.path = .whole text

theorem hasPath_withAuthority? {scheme front : List Char} {split : Parts} {url : Url}
    (read : withAuthority? scheme front split = some url) : url.HasPath := by
  rcases Option.bind_eq_some_iff.mp read with ⟨authority, -, given⟩
  cases given
  exact .inl ⟨_, rfl⟩

theorem hasPath_file? {scheme : List Char} {split : Parts} {url : Url}
    (read : file? scheme split = some url) : url.HasPath := by
  unfold file? at read
  split at read
  · split at read
    · cases read
      exact .inl ⟨_, rfl⟩
    · rcases Option.map_eq_some_iff.mp read with ⟨host, -, rfl⟩
      exact .inl ⟨_, rfl⟩
  · cases read
    exact .inl ⟨_, rfl⟩

theorem hasPath_withScheme? {scheme text : List Char} {url : Url}
    (read : withScheme? none scheme text = some url) : url.HasPath := by
  simp only [withScheme?, Option.filter_none] at read
  split at read
  · exact hasPath_file? read
  · split at read
    · exact hasPath_withAuthority? read
    · split at read
      · exact hasPath_withAuthority? read
      · cases read
        exact .inl ⟨_, rfl⟩
      · cases read
        exact .inr ⟨_, rfl⟩

theorem hasPath_read? {text : List Char} {url : Url} (read : read? text = some url) :
    url.HasPath := by
  simp only [read?, readIn?] at read
  split at read
  · exact hasPath_withScheme? read
  · cases read

theorem isPath_read? {text : List Char} {url : Url} {names : List (List Char)}
    (read : read? text = some url) (path : url.path = .segments names) :
    IsPath url.scheme names := by
  rcases hasPath_read? read with ⟨front, same⟩ | ⟨whole, same⟩
  · exact isPath_pathFrom (same.symm.trans path)
  · rw [path] at same
    cases same

end ExportWatch.Url

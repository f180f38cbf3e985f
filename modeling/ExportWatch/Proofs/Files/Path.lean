import ExportWatch.Files.Path
import ExportWatch.Proofs.Text.Cut

/-! The names of a path that a name is joined to. -/

namespace ExportWatch.Path

open Text

/-- A name that leads somewhere inside a directory. -/
structure IsName (name : String) : Prop where
  noSlash : '/' ∉ name.toList
  notEmpty : name ≠ ""
  notHere : name ≠ "."
  notAbove : name ≠ ".."

/-- What is joined to a path, as names: none if it is empty. -/
def joined (name : String) : List String :=
  [name].filter (· ≠ "")

theorem joined_of_isName {name : String} (isName : IsName name) : joined name = [name] := by
  simp [joined, isName.notEmpty]

def namesOf (text : List Char) : List String :=
  ((parts '/' text).map String.ofList).filter (· ≠ "")

theorem namesOf_append (before after : List Char) :
    namesOf (before ++ '/' :: after) = namesOf before ++ namesOf after := by
  rw [namesOf, parts_append, List.map_append, List.filter_append]
  rfl

theorem namesOf_nil : namesOf [] = [] := by
  simp [namesOf, parts]

theorem namesOf_of_noSlash {name : String} (noSlash : '/' ∉ name.toList) :
    namesOf name.toList = joined name := by
  rw [namesOf, parts_of_not_mem noSlash, List.map_singleton, String.ofList_toList, joined]

/-! The text of a joined path: a slash stands before the name, unless one is there
already or nothing comes before. -/

theorem toList_join (path : Path) (name : String) :
    (path.join name).text.toList =
      path.text.toList ++
        (if path.text.toList = [] ∨ path.namesDirectory = true then [] else ['/']) ++
          name.toList := by
  have same : (decide (path.text = "") || path.namesDirectory) = true ↔
      path.text.toList = [] ∨ path.namesDirectory = true := by
    rw [Bool.or_eq_true, decide_eq_true_iff, String.toList_eq_nil_iff]
  unfold join
  by_cases ends : path.text.toList = [] ∨ path.namesDirectory = true
  · rw [if_pos ends, if_pos (same.mpr ends), String.toList_append, List.append_nil]
  · rw [if_neg ends, if_neg (mt same.mp ends), String.toList_append, String.toList_append]
    rfl

theorem join_injective {path : Path} {first second : String}
    (same : path.join first = path.join second) : first = second := by
  have lists := congrArg (fun joined => joined.text.toList) same
  simp only [toList_join] at lists
  exact String.toList_injective (List.append_cancel_left lists)

theorem namesDirectory_iff {path : Path} :
    path.namesDirectory = true ↔ ∃ before, path.text.toList = before ++ ['/'] := by
  rw [namesDirectory, decide_eq_true_iff, List.getLast?_eq_some_iff]

variable {name : String}

theorem names_join (path : Path) (noSlash : '/' ∉ name.toList) :
    (path.join name).names = path.names ++ joined name := by
  have text : (path.join name).names = namesOf (path.join name).text.toList := rfl
  have before : path.names = namesOf path.text.toList := rfl
  rw [text, before, toList_join, ← namesOf_of_noSlash noSlash]
  by_cases ends : path.text.toList = [] ∨ path.namesDirectory = true
  · rw [if_pos ends, List.append_nil]
    rcases ends with empty | slash
    · rw [empty, namesOf_nil, List.nil_append, List.nil_append]
    · rcases namesDirectory_iff.mp slash with ⟨start, same⟩
      rw [same, List.append_assoc, List.singleton_append, namesOf_append, namesOf_append,
        namesOf_nil, List.append_nil]
  · rw [if_neg ends, List.append_assoc, List.singleton_append, namesOf_append]

theorem isAbsolute_join (path : Path) (noSlash : '/' ∉ name.toList) :
    (path.join name).isAbsolute = path.isAbsolute := by
  rw [isAbsolute, isAbsolute, toList_join]
  cases before : path.text.toList with
  | nil =>
      cases written : name.toList with
      | nil => simp
      | cons head tail =>
          have other : head ≠ '/' := by
            rintro rfl
            exact noSlash (written ▸ List.mem_cons_self)
          simp [other]
  | cons head tail => simp

theorem namesDirectory_join (path : Path) (noSlash : '/' ∉ name.toList) (notEmpty : name ≠ "") :
    (path.join name).namesDirectory = false := by
  have filled : name.toList ≠ [] := by simpa using notEmpty
  have last := List.getLast_mem filled
  have other : name.toList.getLast filled ≠ '/' := fun same => noSlash (same ▸ last)
  rw [namesDirectory, toList_join, List.getLast?_append,
    List.getLast?_eq_some_getLast filled, Option.some_or]
  simpa using other

/-- Names between slashes. -/
theorem mem_names {path : Path} (member : name ∈ path.names) :
    '/' ∉ name.toList ∧ name ≠ "" := by
  rw [names, List.mem_filter, decide_eq_true_iff] at member
  rcases List.mem_map.mp member.1 with ⟨part, isPart, rfl⟩
  exact ⟨by simpa using not_mem_of_mem_parts isPart, member.2⟩

end ExportWatch.Path

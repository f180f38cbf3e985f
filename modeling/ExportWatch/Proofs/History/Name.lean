import ExportWatch.History.Store
import ExportWatch.Proofs.Files.Basic
import ExportWatch.Proofs.Text.Percent

/-! Where runs are filed. Different jobs have different directories, and in each of them
different runs have different files. Only the file of a run without an identifier has no
extension. -/

namespace ExportWatch

open Text

/-! What follows the last point. -/

theorem Path.extension?_eq_some_iff (stem : String) {ending : String}
    (noPoint : '.' ∉ ending.toList) :
    Path.extension? (stem ++ "." ++ ending) = some ending ↔ stem ≠ "" := by
  have reversed : (stem ++ "." ++ ending).toList.reverse =
      ending.toList.reverse ++ '.' :: stem.toList.reverse := by
    simp
  have other : ∀ character ∈ ending.toList.reverse, decide (character ≠ '.') = true := by
    intro character member
    rw [decide_eq_true_iff]
    rintro rfl
    exact noPoint (List.mem_reverse.mp member)
  rw [Path.extension?, Path.extensionOf?, reversed, List.dropWhile_append_of_pos other,
    List.takeWhile_append_of_pos other]
  by_cases empty : stem = ""
  · simp [empty]
  · simp [empty]

/-! The names of files. -/

theorem mem_fileStem {uid : String} {character : Char}
    (member : character ∈ (fileStem uid).toList) :
    keptInName character = true ∨ character = '%' := by
  have digits : ∀ value < 16, keptInName (hexDigit value) = true := by decide
  rw [fileStem, String.toList_ofList] at member
  rcases mem_percentEncode member with kept | mark | ⟨value, small, rfl⟩
  · exact .inl kept
  · exact .inr mark
  · exact .inl (digits value small)

theorem not_mem_fileStem (uid : String) {character : Char} (notKept : keptInName character = false)
    (notMark : character ≠ '%') : character ∉ (fileStem uid).toList := by
  intro member
  rcases mem_fileStem member with kept | mark
  · rw [notKept] at kept
    cases kept
  · exact notMark mark

theorem noSlash_fileStem (uid : String) : '/' ∉ (fileStem uid).toList :=
  not_mem_fileStem uid (by decide) (by decide)

theorem noPoint_fileStem (uid : String) : '.' ∉ (fileStem uid).toList :=
  not_mem_fileStem uid (by decide) (by decide)

theorem fileStem_injective {first second : String} (same : fileStem first = fileStem second) :
    first = second :=
  String.toList_injective (percentEncode_injective (by decide) (String.ofList_injective same))

theorem fileStem_empty : fileStem "" = "" :=
  rfl

theorem fileStem_eq_empty_iff {uid : String} : fileStem uid = "" ↔ uid = "" := by
  constructor
  · intro empty
    rw [← fileStem_empty] at empty
    exact fileStem_injective empty
  · rintro rfl
    exact fileStem_empty

theorem isName_fileStem {uid : String} (filled : fileStem uid ≠ "") :
    Path.IsName (fileStem uid) where
  noSlash := noSlash_fileStem uid
  notEmpty := filled
  notHere := fun here => noPoint_fileStem uid (by rw [here]; decide)
  notAbove := fun above => noPoint_fileStem uid (by rw [above]; decide)

def runName (uid : String) : String :=
  fileStem uid ++ "." ++ runExtension

theorem toList_runName (uid : String) :
    (runName uid).toList = (fileStem uid).toList ++ ".json".toList := by
  simp [runName, runExtension]

theorem runName_injective {first second : String} (same : runName first = runName second) :
    first = second := by
  have lists := congrArg String.toList same
  rw [toList_runName, toList_runName, List.append_left_inj] at lists
  exact fileStem_injective (String.toList_injective lists)

theorem isName_runName (uid : String) : Path.IsName (runName uid) := by
  have ending : 'j' ∈ (runName uid).toList := by
    rw [toList_runName, List.mem_append]
    exact .inr (by decide)
  refine ⟨?_, ?_, ?_, ?_⟩
  · rw [toList_runName, List.mem_append, not_or]
    exact ⟨noSlash_fileStem uid, by decide⟩
  · intro empty
    rw [empty] at ending
    exact absurd ending (by decide)
  · intro here
    rw [here] at ending
    exact absurd ending (by decide)
  · intro above
    rw [above] at ending
    exact absurd ending (by decide)

theorem extension?_runName (uid : String) :
    Path.extension? (runName uid) = some runExtension ↔ uid ≠ "" := by
  rw [runName, Path.extension?_eq_some_iff _ (by decide), Ne, fileStem_eq_empty_iff]

/-! Places below the root of a store. -/

def jobPlace (job : String) : Place :=
  Path.joined (fileStem job)

def runPlace (job uid : String) : Place :=
  jobPlace job ++ [runName uid]

theorem jobPlace_injective {first second : String} (same : jobPlace first = jobPlace second) :
    first = second := by
  apply fileStem_injective
  by_cases firstEmpty : fileStem first = ""
  · by_cases secondEmpty : fileStem second = ""
    · rw [firstEmpty, secondEmpty]
    · simp [jobPlace, Path.joined, firstEmpty, secondEmpty] at same
  · by_cases secondEmpty : fileStem second = ""
    · simp [jobPlace, Path.joined, firstEmpty, secondEmpty] at same
    · simpa [jobPlace, Path.joined, firstEmpty, secondEmpty] using same

theorem eq_of_runPlace {job other uid name : String}
    (same : jobPlace job ++ [name] = runPlace other uid) : job = other ∧ name = runName uid := by
  rcases List.append_inj' same rfl with ⟨jobs, names⟩
  exact ⟨jobPlace_injective jobs, List.singleton_inj.mp names⟩

theorem runPlace_eq_iff {job other uid name : String} :
    runPlace job uid = runPlace other name ↔ job = other ∧ uid = name := by
  constructor
  · intro same
    rcases eq_of_runPlace same with ⟨jobs, names⟩
    exact ⟨jobs, runName_injective names⟩
  · rintro ⟨rfl, rfl⟩
    rfl

/-- Only names of files have points. -/
theorem runName_not_mem_jobPlace (job uid : String) : runName uid ∉ jobPlace job := by
  intro member
  rw [jobPlace, Path.joined, List.mem_filter, List.mem_singleton] at member
  have point : '.' ∈ (runName uid).toList := by
    rw [toList_runName, List.mem_append]
    exact .inr (by decide)
  rw [member.1] at point
  exact noPoint_fileStem job point

theorem jobPlace_ne_runPlace (job other uid : String) : jobPlace job ≠ runPlace other uid := by
  intro same
  apply runName_not_mem_jobPlace job uid
  rw [same]
  exact List.mem_append_right _ List.mem_cons_self

namespace RunStore

variable {files : Files}

theorem destination_jobDirectory (files : Files) (store : RunStore) (job : String) :
    files.destination (store.jobDirectory job) = files.destination store.root ++ jobPlace job := by
  rw [jobDirectory, jobPlace]
  by_cases empty : fileStem job = ""
  · rw [empty, files.destination_join_empty]
    exact (List.append_nil _).symm
  · have isName := isName_fileStem empty
    rw [files.destination_join _ isName, Path.joined_of_isName isName]

theorem reaches_jobDirectory_iff {store : RunStore} {job : String} :
    files.Reaches (store.jobDirectory job) ↔ files.Reaches store.root := by
  rw [jobDirectory]
  by_cases empty : fileStem job = ""
  · rw [empty, files.reaches_join_empty_iff]
  · exact files.reaches_join_iff (isName_fileStem empty)

theorem runPath_eq_join (store : RunStore) (job uid : String) :
    store.runPath job uid = (store.jobDirectory job).join (runName uid) :=
  rfl

theorem destination_runPath (files : Files) (store : RunStore) (job uid : String) :
    files.destination (store.runPath job uid) =
      files.destination store.root ++ runPlace job uid := by
  rw [runPath_eq_join, files.destination_join _ (isName_runName uid), destination_jobDirectory,
    runPlace, List.append_assoc]

theorem reaches_runPath_iff {store : RunStore} {job uid : String} :
    files.Reaches (store.runPath job uid) ↔ files.Reaches store.root := by
  rw [runPath_eq_join, files.reaches_join_iff (isName_runName uid), reaches_jobDirectory_iff]

end RunStore

end ExportWatch

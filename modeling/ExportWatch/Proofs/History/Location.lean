import ExportWatch.Proofs.History.Store
import ExportWatch.Proofs.Url.Decoded

/-! Where the files of runs lie, whatever the identifiers are: inside the root of the store, and
none of them at or below the file of another run. The names of the files tell which runs they
hold. -/

namespace ExportWatch

open Text

/-- A path that goes on from another with names that lead further inside. -/
structure Path.IsInside (path outer : Path) : Prop where
  isAbsolute_eq : path.isAbsolute = outer.isAbsolute
  names : ∃ further, further ≠ [] ∧ (∀ name ∈ further, IsName name) ∧
    path.names = outer.names ++ further

theorem decoded?_fileStem (uid : String) :
    Host.decoded? (fileStem uid).toList = some uid.toList := by
  rw [fileStem, String.toList_ofList]
  exact Host.decoded?_percentEncode (by decide) uid.toList

/-! Places below the root of a store. -/

theorem runPlace_ne_nil (job uid : String) : runPlace job uid ≠ [] :=
  List.append_ne_nil_of_right_ne_nil _ (List.cons_ne_nil _ _)

theorem isName_of_mem_runPlace {job uid name : String} (member : name ∈ runPlace job uid) :
    Path.IsName name := by
  rcases List.mem_append.mp member with directory | file
  · rw [jobPlace, Path.joined, List.mem_filter, List.mem_singleton, decide_eq_true_iff] at directory
    rcases directory with ⟨rfl, filled⟩
    exact isName_fileStem filled
  · rw [List.mem_singleton.mp file]
    exact isName_runName uid

/-- No run is filed below the file of another. A job without an identifier files its runs where the
other jobs have their directories, and the names of those have no points. -/
theorem runPlace_prefix_iff {job uid other name : String} :
    runPlace job uid <+: runPlace other name ↔ job = other ∧ uid = name := by
  rw [← runPlace_eq_iff]
  constructor
  · intro isPrefix
    rcases List.prefix_concat_iff.mp isPrefix with same | above
    · exact same
    · have member : runName uid ∈ runPlace job uid :=
        List.mem_append_right _ List.mem_cons_self
      exact absurd (above.subset member) (runName_not_mem_jobPlace other uid)
  · intro same
    exact same ▸ List.prefix_refl _

namespace RunStore

variable (store : RunStore) (job uid : String)

theorem names_runPath : (store.runPath job uid).names = store.root.names ++ runPlace job uid := by
  have isName := isName_runName uid
  rw [runPath_eq_join, Path.names_join _ isName.noSlash, Path.joined_of_isName isName, jobDirectory,
    Path.names_join _ (noSlash_fileStem job), List.append_assoc]
  rfl

theorem isInside_runPath : (store.runPath job uid).IsInside store.root where
  isAbsolute_eq := by
    rw [runPath_eq_join, Path.isAbsolute_join _ (isName_runName uid).noSlash, jobDirectory,
      Path.isAbsolute_join _ (noSlash_fileStem job)]
  names := ⟨runPlace job uid, runPlace_ne_nil job uid, fun _ => isName_of_mem_runPlace,
    store.names_runPath job uid⟩

variable {job uid}

/-- The place of a run's file is neither the place of another run's file nor above it. -/
theorem not_prefix_runPath {other name : String} (different : (job, uid) ≠ (other, name)) :
    (¬ (store.runPath job uid).names <+: (store.runPath other name).names) ∧
      ∀ files : Files, ¬ files.destination (store.runPath job uid) <+:
        files.destination (store.runPath other name) := by
  have apart : ¬ runPlace job uid <+: runPlace other name := by
    rwa [runPlace_prefix_iff, ← Prod.mk.injEq]
  constructor
  · rwa [names_runPath, names_runPath, List.prefix_append_right_inj]
  · intro files
    rwa [destination_runPath, destination_runPath, List.prefix_append_right_inj]

/-- Any two runs, and any two jobs, have files of their own inside the store. The first part says
what the names of files are made of and that the identifiers can be read from them; the last one
says of every tree that a run's file is neither the file of another run nor a directory above
it. -/
theorem run_files_apart :
    (∀ uid, Host.decoded? (fileStem uid).toList = some uid.toList ∧
      ∀ character ∈ (fileStem uid).toList,
        isLetterOrDigit character = true ∨ character = '-' ∨ character = '_' ∨ character = '%') ∧
    Function.Injective fileStem ∧
    (∀ job run files path, (store.save job run files).2 = .ok path →
      path = store.runPath job run.uid) ∧
    (∀ job uid, (store.runPath job uid).IsInside store.root) ∧
    ∀ job uid other name, (job, uid) ≠ (other, name) →
      store.runPath job uid ≠ store.runPath other name ∧
        ¬ (store.runPath other name).IsInside (store.runPath job uid) ∧
        ∀ files : Files, ¬ files.destination (store.runPath job uid) <+:
          files.destination (store.runPath other name) := by
  refine ⟨fun uid => ⟨decoded?_fileStem uid, ?_⟩, fun _ _ => fileStem_injective, ?_,
    store.isInside_runPath, ?_⟩
  · intro character member
    rcases mem_fileStem member with kept | mark
    · simpa [keptInName, or_assoc] using Or.inl kept
    · exact .inr (.inr (.inr mark))
  · intro job run files path saved
    exact (save_ok (Prod.ext rfl saved)).1
  · intro job uid other name different
    rcases store.not_prefix_runPath different with ⟨names, destination⟩
    refine ⟨?_, ?_, destination⟩
    · intro same
      exact names (same ▸ List.prefix_refl _)
    · rintro ⟨-, further, -, -, goesOn⟩
      exact names (goesOn ▸ List.prefix_append _ _)

/-- The job without an identifier has no directory of its own. -/
theorem run_files_apart_of_unnamed_job :
    (RunStore.save ⟨⟨"runs"⟩⟩ "" ⟨"%41", .completed, none, none, none, []⟩ (.empty ["home"])).2 =
        .ok ⟨"runs/%2541.json"⟩ ∧
      Path.IsInside ⟨"runs/%2541.json"⟩ ⟨"runs"⟩ ∧
      ("", "%41") ≠ ("%41", "") ∧
      ∀ files : Files, ¬ files.destination ⟨"runs/%2541.json"⟩ <+:
        files.destination ⟨"runs/%2541/.json"⟩ := by
  have saved : (RunStore.save ⟨⟨"runs"⟩⟩ "" ⟨"%41", .completed, none, none, none, []⟩
      (.empty ["home"])).2 = .ok ⟨"runs/%2541.json"⟩ := by decide +kernel
  have different : ("", "%41") ≠ ("%41", "") := by decide
  have other : runPath ⟨⟨"runs"⟩⟩ "%41" "" = ⟨"runs/%2541/.json"⟩ := by decide +kernel
  rcases run_files_apart ⟨⟨"runs"⟩⟩ with ⟨-, -, path, inside, apart⟩
  have same := path _ _ _ _ saved
  have below := (apart _ _ _ _ different).2.2
  rw [← same, other] at below
  exact ⟨saved, same ▸ inside "" "%41", different, below⟩

end RunStore

end ExportWatch

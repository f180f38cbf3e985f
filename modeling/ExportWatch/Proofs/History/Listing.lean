import ExportWatch.Proofs.History.Name
import ExportWatch.Proofs.History.Order

/-! What is loaded for a job, whatever its directory holds: the runs in the files with the right
extension, each file once and in the order of the store. Pruning removes the files of the runs
that come last, and changes nothing else. -/

namespace ExportWatch

open Json Files FileNode

variable {files after : Files}

/-- Directories list names that lead inside them, each of them once. -/
def Files.Tidy (files : Files) : Prop :=
  ∀ place, files.TidyAt place

theorem Files.Steady.tidyAll (steady : Steady files after) (tidy : files.Tidy) : after.Tidy :=
  fun place => steady.tidy place (tidy place)

theorem Files.tidy_empty {workingDirectory : Place}
    (areNames : ∀ name ∈ workingDirectory, Path.IsName name) :
    (Files.empty workingDirectory).Tidy := by
  unfold Files.Tidy Files.TidyAt Files.empty
  simp only []
  induction workingDirectory with
  | nil =>
      intro place names seen
      cases place with
      | nil =>
          cases seen
          exact ⟨List.nodup_nil, nofun⟩
      | cons name below =>
          have nothing := bare_empty name below
          rw [List.nil_append] at nothing
          rw [nest, List.foldr_nil, nothing] at seen
          cases seen
  | cons outer others induction =>
      intro place names seen
      cases place with
      | nil =>
          cases seen
          exact ⟨List.nodup_singleton _, by simpa using areNames outer List.mem_cons_self⟩
      | cons name below =>
          rw [nest, List.foldr_cons, itemAt_directory] at seen
          split at seen
          · cases seen
          · rcases Option.bind_eq_some_iff.mp seen with ⟨inner, found, shown⟩
            have entry := List.mem_singleton.mp (mem_of_lookup found)
            rw [Prod.mk.injEq] at entry
            rw [entry.2] at shown
            exact induction (fun name member => areNames name (List.mem_cons_of_mem _ member))
              below names shown

namespace RunStore

variable {store : RunStore} {job : String} {entry : SavedRun} {saved : List SavedRun}

/-- A file in the directory of a job that is taken for a run. -/
structure Filed (store : RunStore) (job : String) (files : Files) (entry : SavedRun) : Prop where
  named : ∃ name, Path.IsName name ∧ Path.extension? name = some runExtension ∧
    entry.path = (store.jobDirectory job).join name
  holds : ∃ text, files.read entry.path = .ok text ∧
    decodeDocument Run.decode text = .ok entry.run

/-- What is loaded are the runs that are filed, in their order. -/
structure Lists (store : RunStore) (job : String) (files : Files) (saved : List SavedRun) :
    Prop where
  mem_iff : ∀ entry, entry ∈ saved ↔ store.Filed job files entry
  distinct : (saved.map (·.path)).Nodup
  sorted : saved.Pairwise fun first second => first.run.AtLeast second.run

theorem savedRun?_iff {directory : Path} {name : String} :
    savedRun? files directory name = some entry ↔
      Path.extension? name = some runExtension ∧ entry.path = directory.join name ∧
        ∃ text, files.read entry.path = .ok text ∧
          decodeDocument Run.decode text = .ok entry.run := by
  unfold savedRun?
  constructor
  · intro found
    split at found
    · next extension =>
        rcases Option.map_eq_some_iff.mp found with ⟨run, read, rfl⟩
        rcases Option.bind_eq_some_iff.mp read with ⟨text, text_read, decoded⟩
        exact ⟨extension, rfl, text, toOption_eq_some_iff.mp text_read,
          toOption_eq_some_iff.mp decoded⟩
    · cases found
  · rintro ⟨extension, path, text, read, decoded⟩
    rw [if_pos extension]
    rw [path] at read
    simp only [readRun?, read, decoded, Except.toOption, Option.bind_eq_bind, Option.bind_some,
      Option.map_some, Option.some.injEq]
    rw [← path]

/-! The directory of a job. -/

theorem text_jobDirectory_ne (rooted : store.root.text ≠ "") (job : String) :
    (store.jobDirectory job).text ≠ "" := by
  intro empty
  have lists := congrArg String.toList empty
  rw [jobDirectory, Path.toList_join, List.append_assoc] at lists
  exact rooted (String.toList_eq_nil_iff.mp (List.append_eq_nil_iff.mp lists).1)

theorem loadAll_of_error {fault : FileFault}
    (missing : files.find (store.jobDirectory job) = .error fault) :
    store.loadAll job files = .ok [] := by
  have absent : files.isPresent (store.jobDirectory job) = false := by
    rw [isPresent, missing]
    rfl
  simp [loadAll, absent, pure, Except.pure]

/-- Without a directory for the job nothing is found. -/
theorem loadAll_of_unnamed (unnamed : (store.jobDirectory job).text = "") :
    store.loadAll job files = .ok [] := by
  cases found : files.find (store.jobDirectory job) with
  | error fault => exact loadAll_of_error found
  | ok node => exact absurd unnamed (checkText_eq_ok_iff.mp (checkText_of_find found)).2.1

theorem loadAll_of_directory {entries : Entries}
    (found : files.find (store.jobDirectory job) = .ok (.directory entries)) :
    store.loadAll job files = .ok (((entries.map (·.1)).filterMap
      (savedRun? files (store.jobDirectory job))).mergeSort fun first second =>
        comesFirst first.run second.run) := by
  have present : files.isPresent (store.jobDirectory job) = true := by
    rw [isPresent, found]
    rfl
  have listed : files.list (store.jobDirectory job) = .ok (entries.map (·.1)) := by
    rw [Files.list, found]
    rfl
  simp [loadAll, present, during, listed, Except.mapError, bind, Except.bind, pure, Except.pure]

theorem loadAll_of_file {text : String}
    (found : files.find (store.jobDirectory job) = .ok (.file text)) :
    ∃ trouble, store.loadAll job files = .error trouble := by
  have present : files.isPresent (store.jobDirectory job) = true := by
    rw [isPresent, found]
    rfl
  have refused : files.list (store.jobDirectory job) = .error .notADirectory := by
    rw [Files.list, found]
    rfl
  exact ⟨_, by simp [loadAll, present, during, refused, Except.mapError, bind, Except.bind]; rfl⟩

theorem loadAll_of_no_file
    (noFile : ∀ text, files.find (store.jobDirectory job) ≠ .ok (.file text)) :
    ∃ saved, store.loadAll job files = .ok saved := by
  cases found : files.find (store.jobDirectory job) with
  | error fault => exact ⟨_, loadAll_of_error found⟩
  | ok node =>
      cases node with
      | file text => exact absurd found (noFile text)
      | directory entries => exact ⟨_, loadAll_of_directory found⟩

/-- What is loaded comes from a directory, or there is nothing to load from. -/
theorem loadAll_eq_ok (loaded : store.loadAll job files = .ok saved) :
    ((∃ fault, files.find (store.jobDirectory job) = .error fault) ∧ saved = []) ∨
      ∃ entries, files.find (store.jobDirectory job) = .ok (.directory entries) ∧
        saved = ((entries.map (·.1)).filterMap (savedRun? files (store.jobDirectory job))).mergeSort
          fun first second => comesFirst first.run second.run := by
  cases found : files.find (store.jobDirectory job) with
  | error fault =>
      rw [loadAll_of_error found] at loaded
      cases loaded
      exact .inl ⟨⟨fault, rfl⟩, rfl⟩
  | ok node =>
      cases node with
      | file text =>
          rcases loadAll_of_file found with ⟨trouble, refused⟩
          rw [refused] at loaded
          cases loaded
      | directory entries =>
          rw [loadAll_of_directory found] at loaded
          cases loaded
          exact .inr ⟨entries, rfl, rfl⟩

/-- The directory of a run that is filed can be looked up, and lists its file. -/
theorem Filed.listed (filed : store.Filed job files entry)
    (named : (store.jobDirectory job).text ≠ "") :
    ∃ entries, files.find (store.jobDirectory job) = .ok (.directory entries) ∧
      ∃ name ∈ entries.map (·.1), savedRun? files (store.jobDirectory job) name = some entry := by
  rcases filed with ⟨⟨name, isName, extension, path⟩, holds⟩
  rcases holds with ⟨text, read, decoded⟩
  have found := find_of_read read
  rw [path] at found
  have checked := checkText_of_join named (checkText_of_find found)
  have reaches := (reaches_join_iff isName).mp (reaches_of_find found)
  have seen := itemAt_of_find (find_root_of_find found)
  rw [destination_join files _ isName] at seen
  rcases find_of_isDirectory (isDirectory_of_itemAt seen) with ⟨entries, atPlace⟩
  exact ⟨entries, find_directory checked reaches atPlace, name, mem_of_itemAt atPlace seen,
    savedRun?_iff.mpr ⟨extension, path, text, read, decoded⟩⟩

theorem lists_of_loadAll (tidy : files.TidyAt (files.destination (store.jobDirectory job)))
    (named : (store.jobDirectory job).text ≠ "") (loaded : store.loadAll job files = .ok saved) :
    store.Lists job files saved := by
  rcases loadAll_eq_ok loaded with ⟨⟨fault, missing⟩, rfl⟩ | ⟨entries, found, rfl⟩
  · refine ⟨fun entry => ⟨nofun, ?_⟩, List.nodup_nil, List.Pairwise.nil⟩
    intro filed
    rcases filed.listed named with ⟨entries, present, -⟩
    rw [missing] at present
    cases present
  · rcases tidy _ (itemAt_of_find (find_root_of_find found)) with ⟨distinct, areNames⟩
    refine ⟨?_, ?_, pairwise_mergeSort _⟩
    · intro entry
      rw [List.mem_mergeSort, List.mem_filterMap]
      constructor
      · rintro ⟨name, member, taken⟩
        rcases savedRun?_iff.mp taken with ⟨extension, path, holds⟩
        exact ⟨⟨name, areNames name member, extension, path⟩, holds⟩
      · intro filed
        rcases filed.listed named with ⟨others, present, listed⟩
        rw [found] at present
        cases present
        exact listed
    · refine ((List.mergeSort_perm _ _).map SavedRun.path).nodup_iff.mpr ?_
      rw [List.Nodup, List.pairwise_map, List.pairwise_filterMap]
      apply distinct.imp
      intro first second different one oneTaken other otherTaken same
      rw [(savedRun?_iff.mp oneTaken).2.1, (savedRun?_iff.mp otherTaken).2.1] at same
      exact different (Path.join_injective same)

/-! A run is filed as long as its file is there with the same text. -/

theorem Filed.reaches (filed : store.Filed job files entry) :
    files.Reaches (store.jobDirectory job) := by
  rcases filed with ⟨⟨name, isName, -, path⟩, text, read, -⟩
  rw [path] at read
  exact (reaches_join_iff isName).mp (reaches_of_find (find_of_read read))

theorem Filed.of_text (filed : store.Filed job files entry)
    (reaches : after.Reaches (store.jobDirectory job))
    (same : after.textAt (after.destination entry.path) =
      files.textAt (files.destination entry.path)) : store.Filed job after entry := by
  have reachesBefore := filed.reaches
  rcases filed with ⟨named, text, read, decoded⟩
  refine ⟨named, text, ?_, decoded⟩
  rcases named with ⟨name, isName, -, path⟩
  rw [path] at read same ⊢
  rw [destination_join after _ isName, destination_join files _ isName] at same
  rw [read_join_iff reachesBefore isName] at read
  rw [read_join_iff reaches isName, same]
  exact read

theorem Filed.kept (filed : store.Filed job files entry) (steady : Steady files after)
    (same : after.textAt (files.destination entry.path) =
      files.textAt (files.destination entry.path)) : store.Filed job after entry := by
  rw [← steady.destination] at same
  exact filed.of_text (steady.reaches filed.reaches) (by rw [same, steady.destination])

/-! Removing the files of runs. -/

theorem Filed.destination_ne {other : SavedRun} (filed : store.Filed job files entry)
    (otherFiled : store.Filed job files other) (different : entry.path ≠ other.path) :
    files.destination entry.path ≠ files.destination other.path := by
  rcases filed.named with ⟨name, isName, -, path⟩
  rcases otherFiled.named with ⟨otherName, isOtherName, -, otherPath⟩
  rw [path, otherPath] at different ⊢
  rw [destination_join files _ isName, destination_join files _ isOtherName]
  intro same
  exact different (by rw [List.singleton_inj.mp (List.append_cancel_left same)])

theorem removeAll_filed {dropped : List SavedRun}
    (filed : ∀ entry ∈ dropped, store.Filed job files entry)
    (distinct : (dropped.map (·.path)).Nodup) (before : Nat) :
    ∃ after,
      removeAll files before (dropped.map (·.path)) = (after, .ok (before + dropped.length)) ∧
      Steady files after ∧ ∀ place, after.textAt place =
        if place ∈ dropped.map (files.destination ·.path) then none else files.textAt place := by
  induction dropped generalizing files before with
  | nil => exact ⟨files, rfl, .refl files, fun place => rfl⟩
  | cons head tail induction =>
      have headFiled := filed head List.mem_cons_self
      rcases headFiled with ⟨⟨name, isName, -, path⟩, text, read, -⟩
      rw [List.map_cons, List.nodup_cons] at distinct
      rw [path] at read
      rcases remove_of_read isName read with ⟨middle, gone, steady, texts⟩
      rw [← path] at gone texts
      have tailFiled : ∀ entry ∈ tail, store.Filed job middle entry := by
        intro entry member
        have entryFiled := filed entry (List.mem_cons_of_mem _ member)
        refine entryFiled.kept steady ?_
        rw [texts, if_neg]
        refine entryFiled.destination_ne (filed head List.mem_cons_self) ?_
        intro same
        exact distinct.1 (List.mem_map.mpr ⟨entry, member, same⟩)
      rcases induction tailFiled distinct.2 (before + 1) with
        ⟨final, others, steadyAfter, textsAfter⟩
      refine ⟨final, ?_, steady.trans steadyAfter, ?_⟩
      · rw [List.map_cons, removeAll, gone]
        simp only [others, List.length_cons]
        rw [Nat.add_assoc, Nat.add_comm 1]
      · intro place
        rw [textsAfter, texts]
        simp only [steady.destination, List.map_cons, List.mem_cons]
        by_cases isHead : place = files.destination head.path
        · simp [isHead]
        · simp [isHead]

theorem loadRecent_of_loadAll (loaded : store.loadAll job files = .ok saved) (limit : Nat) :
    store.loadRecent job limit files = .ok ((saved.map (·.run)).take limit) := by
  rw [loadRecent, loaded, ← List.map_take]
  rfl

theorem prune_of_loadAll (loaded : store.loadAll job files = .ok saved) (keep : Nat) :
    store.prune job keep files = removeAll files 0 ((saved.drop keep).map (·.path)) := by
  rw [RunStore.prune, loaded]

/-- Pruning goes well whatever is in the directory, and only removes the files of the runs that
come last. -/
theorem Lists.prune (lists : store.Lists job files saved)
    (loaded : store.loadAll job files = .ok saved) (keep : Nat) :
    ∃ after, store.prune job keep files = (after, .ok (saved.drop keep).length) ∧
      Steady files after ∧ ∀ place, after.textAt place =
        if place ∈ (saved.drop keep).map (files.destination ·.path) then none
        else files.textAt place := by
  have filed : ∀ entry ∈ saved.drop keep, store.Filed job files entry := fun entry member =>
    (lists.mem_iff entry).mp (List.mem_of_mem_drop member)
  have distinct : ((saved.drop keep).map (·.path)).Nodup := by
    rw [List.map_drop]
    exact lists.distinct.drop
  rcases removeAll_filed filed distinct 0 with ⟨after, removed, steady, texts⟩
  rw [Nat.zero_add] at removed
  refine ⟨after, ?_, steady, texts⟩
  rw [prune_of_loadAll loaded]
  exact removed

end RunStore

end ExportWatch

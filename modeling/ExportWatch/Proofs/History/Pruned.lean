import ExportWatch.Proofs.History.Reported

/-! What pruning leaves. As long as start and identifier tell the runs of a job apart, there is one
order in which they can be listed, so what is listed after pruning is the beginning of what was
listed before. -/

namespace ExportWatch.RunStore

open Json Files FileNode

variable {files after : Files} {store : RunStore} {job : String} {entry : SavedRun}
  {saved others : List SavedRun} {keep removed : Nat}

/-- Two runs of a job are told apart by their start or by their identifier. -/
def Apart (saved : List SavedRun) : Prop :=
  saved.Pairwise fun first second =>
    (first.run.startedAt, first.run.uid) ≠ (second.run.startedAt, second.run.uid)

instance (saved : List SavedRun) : Decidable (Apart saved) :=
  inferInstanceAs (Decidable (List.Pairwise _ saved))

theorem rank_eq_iff {first second : Run} :
    first.rank = second.rank ↔
      (first.startedAt, first.uid) = (second.startedAt, second.uid) := by
  rw [Run.rank, Run.rank, toLex_inj, Prod.mk.injEq, Prod.mk.injEq, start_inj]

theorem Apart.perm (apart : Apart saved) (perm : others.Perm saved) : Apart others :=
  List.Pairwise.perm apart perm.symm Ne.symm

theorem Apart.take (apart : Apart saved) (count : Nat) : Apart (saved.take count) :=
  List.Pairwise.take apart

theorem Apart.newer (apart : Apart saved)
    (sorted : saved.Pairwise fun first second => first.run.AtLeast second.run) :
    saved.Pairwise fun first second => first.run.Newer second.run :=
  sorted.imp₂ (fun _ _ atLeast different =>
    lt_of_le_of_ne atLeast fun same => different (rank_eq_iff.mp same).symm) apart

/-- There is one order in which they can be listed. -/
theorem Apart.unique (apart : Apart saved) (perm : others.Perm saved)
    (othersSorted : others.Pairwise fun first second => first.run.AtLeast second.run)
    (sorted : saved.Pairwise fun first second => first.run.AtLeast second.run) :
    others = saved := by
  apply perm.eq_of_pairwise _ ((apart.perm perm).newer othersSorted) (apart.newer sorted)
  intro one other _ _ newer older
  exact absurd newer (lt_asymm older)

theorem Lists.nodup (lists : store.Lists job files saved) : saved.Nodup :=
  lists.distinct.of_map _

/-! The directory of a job. -/

/-- A directory that is listed has a path that is not empty. -/
theorem lists_of_mem (tidy : files.Tidy) (loaded : store.loadAll job files = .ok saved)
    (member : entry ∈ saved) :
    (store.jobDirectory job).text ≠ "" ∧ files.Reaches (store.jobDirectory job) ∧
      store.Lists job files saved := by
  rcases loadAll_eq_ok loaded with ⟨-, rfl⟩ | ⟨entries, isFound, -⟩
  · cases member
  · have named : (store.jobDirectory job).text ≠ "" :=
      (checkText_eq_ok_iff.mp (checkText_of_find isFound)).2.1
    exact ⟨named, reaches_of_find isFound, lists_of_loadAll (tidy _) named loaded⟩

/-- Whatever is listed can be pruned. -/
theorem prune_loaded (tidy : files.Tidy) (loaded : store.loadAll job files = .ok saved)
    (keep : Nat) :
    ∃ after, store.prune job keep files = (after, .ok (saved.drop keep).length) ∧
      Steady files after ∧ ∀ place, after.textAt place =
        if place ∈ (saved.drop keep).map (files.destination ·.path) then none
        else files.textAt place := by
  cases saved with
  | nil => exact ⟨files, by rw [prune_of_loadAll loaded, List.drop_nil]; rfl, .refl files, by simp⟩
  | cons newest older => exact (lists_of_mem tidy loaded List.mem_cons_self).2.2.prune loaded keep

/-- Pruning fails only where a file has the place of the directory. -/
theorem prune_succeeds_iff (tidy : files.Tidy) :
    (∃ after removed, store.prune job keep files = (after, .ok removed)) ↔
      ∀ text, files.find (store.jobDirectory job) ≠ .ok (.file text) := by
  constructor
  · intro succeeds text isFile
    rcases succeeds with ⟨after, removed, pruned⟩
    rcases loadAll_of_file isFile with ⟨trouble, refused⟩
    rw [RunStore.prune, refused] at pruned
    cases pruned
  · intro noFile
    rcases loadAll_of_no_file noFile with ⟨saved, loaded⟩
    rcases prune_loaded tidy loaded keep with ⟨after, pruned, -⟩
    exact ⟨after, _, pruned⟩

theorem loaded_of_prune (pruned : store.prune job keep files = (after, .ok removed)) :
    ∃ saved, store.loadAll job files = .ok saved := by
  rw [RunStore.prune] at pruned
  split at pruned
  · cases pruned
  · next saved loaded => exact ⟨saved, loaded⟩

/-! What is listed after pruning. -/

theorem sorted_of_loadAll (loaded : store.loadAll job files = .ok saved) :
    saved.Pairwise fun first second => first.run.AtLeast second.run := by
  rcases loadAll_eq_ok loaded with ⟨-, rfl⟩ | ⟨entries, -, rfl⟩
  · exact .nil
  · exact pairwise_mergeSort _

/-- The runs that are left are those that came first, perhaps in another order. -/
theorem perm_of_prune (tidy : files.Tidy) (loaded : store.loadAll job files = .ok saved)
    (pruned : store.prune job keep files = (after, .ok removed)) :
    ∃ kept, store.loadAll job after = .ok kept ∧ kept.Perm (saved.take keep) := by
  cases saved with
  | nil =>
      rw [prune_of_loadAll loaded, List.drop_nil] at pruned
      cases pruned
      rw [List.take_nil]
      exact ⟨[], loaded, .nil⟩
  | cons newest older =>
      rcases lists_of_mem tidy loaded List.mem_cons_self with ⟨named, reaches, lists⟩
      rcases lists.prune loaded keep with ⟨final, outcome, steady, -⟩
      have left (entry : SavedRun) :
          store.Filed job (store.prune job keep files).1 entry ↔
            entry ∈ (newest :: older).take keep := lists.filed_prune_iff loaded reaches
      rw [outcome] at pruned left
      cases pruned
      have newestFiled := (lists.mem_iff newest).mp List.mem_cons_self
      rcases newestFiled.loadAll steady named with ⟨kept, keptLoaded⟩
      have keptLists := lists_of_loadAll (steady.tidyAll tidy _) named keptLoaded
      refine ⟨kept, keptLoaded, ?_⟩
      rw [List.perm_ext_iff_of_nodup keptLists.nodup lists.nodup.take]
      intro entry
      rw [keptLists.mem_iff, left]

/-- They are in the same order if it is the only one. -/
theorem loadAll_of_prune (tidy : files.Tidy) (loaded : store.loadAll job files = .ok saved)
    (apart : Apart saved) (pruned : store.prune job keep files = (after, .ok removed)) :
    store.loadAll job after = .ok (saved.take keep) := by
  rcases perm_of_prune tidy loaded pruned with ⟨kept, keptLoaded, perm⟩
  have same := (apart.take keep).unique perm (sorted_of_loadAll keptLoaded)
    (sorted_of_loadAll loaded).take
  rw [keptLoaded, same]

/-- Only the files of listed runs are removed. -/
theorem textAt_prune (tidy : files.Tidy) (loaded : store.loadAll job files = .ok saved)
    (pruned : store.prune job keep files = (after, .ok removed)) :
    removed = saved.length - keep ∧ ∀ place, after.textAt place = files.textAt place ∨
      after.textAt place = none ∧ ∃ entry ∈ saved, files.destination entry.path = place := by
  rcases prune_loaded tidy loaded keep with ⟨final, outcome, -, texts⟩
  rw [outcome] at pruned
  cases pruned
  refine ⟨List.length_drop, fun place => ?_⟩
  rw [texts]
  split
  · next gone =>
      rcases List.mem_map.mp gone with ⟨entry, dropped, same⟩
      exact .inr ⟨rfl, entry, List.mem_of_mem_drop dropped, same⟩
  · exact .inl rfl

/-- The files of a job are in its own directory. -/
theorem Filed.ne_destination (filed : store.Filed job files entry) {other : String}
    (different : other ≠ job) (name : String) :
    files.destination entry.path ≠ files.destination (store.jobDirectory other) ++ [name] := by
  rcases filed.named with ⟨ownName, isName, -, path⟩
  rw [path, destination_join files _ isName, destination_jobDirectory, destination_jobDirectory,
    List.append_assoc, List.append_assoc]
  intro same
  have places := List.append_inj_left' (List.append_cancel_left same) rfl
  exact different (jobPlace_injective places).symm

/-- Whatever a job's directory and the places around it hold: when no two of the job's runs have
the same start and the same identifier, a pruning that goes well removes all runs but `keep`, the
first of those that were listed are listed as before, all other files and those in the directories
of other jobs stay as they are, and there is nothing more to prune. -/
theorem prune_keeps_beginning (tidy : files.Tidy) (apart : Apart (store.found job files))
    (pruned : store.prune job keep files = (after, .ok removed)) :
    removed = (store.found job files).length - keep ∧
      (∃ all : List Run, all.Perm ((store.found job files).map (·.run)) ∧
        ∀ limit, store.loadRecent job limit files = .ok (all.take limit) ∧
          store.loadRecent job limit after = .ok (all.take (min limit keep))) ∧
      (∀ place, after.textAt place = files.textAt place ∨
        after.textAt place = none ∧
          ∃ entry ∈ store.found job files, files.destination entry.path = place) ∧
      (∀ other ≠ job, ∀ name,
        after.textAt (files.destination (store.jobDirectory other) ++ [name]) =
          files.textAt (files.destination (store.jobDirectory other) ++ [name])) ∧
      store.prune job keep after = (after, .ok 0) := by
  rcases loaded_of_prune pruned with ⟨saved, loaded⟩
  have perm := perm_found loaded
  have left := loadAll_of_prune tidy loaded (apart.perm perm) pruned
  rcases textAt_prune tidy loaded pruned with ⟨count, texts⟩
  refine ⟨by rw [count, perm.length_eq], ⟨saved.map (·.run), perm.map _, ?_⟩, ?_, ?_, ?_⟩
  · intro limit
    rw [loadRecent_of_loadAll loaded, loadRecent_of_loadAll left, List.map_take, List.take_take]
    exact ⟨rfl, rfl⟩
  · intro place
    rcases texts place with same | ⟨gone, entry, member, isPlace⟩
    · exact .inl same
    · exact .inr ⟨gone, entry, perm.mem_iff.mp member, isPlace⟩
  · intro other different name
    rcases texts (files.destination (store.jobDirectory other) ++ [name]) with
      same | ⟨-, entry, member, isPlace⟩
    · exact same
    · have lists := (lists_of_mem tidy loaded member).2.2
      exact absurd isPlace (((lists.mem_iff entry).mp member).ne_destination different name)
  · rw [prune_of_loadAll left, List.drop_eq_nil_of_le (List.length_take_le _ _)]
    rfl

/-- Two runs of a job are saved, and one of another job. -/
theorem prune_keeps_beginning_of_two :
    ∃ files after, saveEach ⟨⟨"runs"⟩⟩ [("job", plainRun "1" (some "2015")),
        ("job", plainRun "2" (some "2016")), ("other", plainRun "1" none)] (.empty ["home"]) =
          .ok files ∧
      prune ⟨⟨"runs"⟩⟩ "job" 1 files = (after, .ok 1) ∧
      (∃ all : List Run, all.length = 2 ∧
        loadRecent ⟨⟨"runs"⟩⟩ "job" 5 after = .ok (all.take 1)) ∧
      after.textAt (files.destination ⟨"runs/other"⟩ ++ ["1.json"]) =
        files.textAt (files.destination ⟨"runs/other"⟩ ++ ["1.json"]) ∧
      prune ⟨⟨"runs"⟩⟩ "job" 1 after = (after, .ok 0) := by
  have checked : (saveEach ⟨⟨"runs"⟩⟩ [("job", plainRun "1" (some "2015")),
      ("job", plainRun "2" (some "2016")), ("other", plainRun "1" none)]
        (.empty ["home"])).toOption.any (fun files =>
          (found ⟨⟨"runs"⟩⟩ "job" files).length = 2 ∧ Apart (found ⟨⟨"runs"⟩⟩ "job" files)) =
            true := by decide +kernel
  rcases (Option.any_eq_true _ _).mp checked with ⟨files, isFiles, holds⟩
  rcases of_decide_eq_true holds with ⟨two, apart⟩
  have saved := toOption_eq_some_iff.mp isFiles
  have tidy := (steady_saveEach saved).tidyAll tidy_home
  rcases List.exists_mem_of_length_pos (two.symm ▸ Nat.two_pos) with ⟨entry, member⟩
  rcases loadAll_of_found member with ⟨listed, loaded⟩
  rcases prune_loaded tidy loaded 1 with ⟨after, pruned, -⟩
  rcases prune_keeps_beginning tidy apart pruned with
    ⟨count, ⟨all, perm, listing⟩, -, others, again⟩
  rw [two] at count
  rw [count] at pruned
  refine ⟨files, after, saved, pruned, ⟨all, ?_, (listing 5).2⟩, ?_, again⟩
  · rw [perm.length_eq, List.length_map, two]
  · exact others "other" (by decide) "1.json"

end ExportWatch.RunStore

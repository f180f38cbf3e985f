import ExportWatch.Proofs.History.Completed

/-! What is reported as saved. The run is in its file and among those that are loaded, unless
the job has five other runs that come before it. -/

namespace ExportWatch

open Json Files FileNode RunStore

variable {files after : Files} {store : RunStore} {job : String} {entry : SavedRun}
  {saved : List SavedRun} {newest : Run}

namespace RunStore

/-- The runs in the directory of a job, in no order. -/
def found (store : RunStore) (job : String) (files : Files) : List SavedRun :=
  ((files.list (store.jobDirectory job)).toOption.getD []).filterMap
    (savedRun? files (store.jobDirectory job))

/-- The other runs of a job that may come before a run, as they are once it is saved. -/
def rivals (store : RunStore) (job : String) (newest : Run) (files : Files) : List SavedRun :=
  (store.found job (store.save job newest files).1).filter fun other =>
    other.path ≠ store.runPath job newest.uid && comesFirst other.run newest

/-- The runs of a job that come before a run in any case. -/
def newerRuns (store : RunStore) (job : String) (newest : Run) (files : Files) : List SavedRun :=
  (store.found job (store.save job newest files).1).filter fun other =>
    !comesFirst newest other.run

theorem perm_found (loaded : store.loadAll job files = .ok saved) :
    saved.Perm (store.found job files) := by
  unfold found Files.list
  rcases loadAll_eq_ok loaded with ⟨⟨fault, missing⟩, rfl⟩ | ⟨entries, isFound, rfl⟩
  · rw [missing]
    exact .nil
  · rw [isFound]
    exact List.mergeSort_perm _ _

theorem no_file_of_found (member : entry ∈ store.found job files) (text : String) :
    files.find (store.jobDirectory job) ≠ .ok (.file text) := by
  intro file
  unfold found Files.list at member
  rw [file] at member
  cases member

theorem loadAll_of_found (member : entry ∈ store.found job files) :
    ∃ saved, store.loadAll job files = .ok saved :=
  loadAll_of_no_file (no_file_of_found member)

theorem length_rivals_le {names : List String}
    (listed : (store.save job newest files).1.list (store.jobDirectory job) = .ok names) :
    (store.rivals job newest files).length ≤ names.length := by
  rw [rivals, found, listed]
  exact (List.length_filter_le _ _).trans (List.length_filterMap_le _ _)

/-- A directory that lists a run is there after any operation. -/
theorem Filed.loadAll (filed : store.Filed job files entry) (steady : Steady files after)
    (named : (store.jobDirectory job).text ≠ "") :
    ∃ saved, store.loadAll job after = .ok saved := by
  rcases filed.listed named with ⟨entries, isFound, -⟩
  rcases steady.directories _ (isDirectory_of_find (find_root_of_find isFound)) with ⟨names, seen⟩
  apply loadAll_of_no_file
  intro text file
  have other := itemAt_of_find (find_root_of_find file)
  rw [steady.destination, seen] at other
  cases other

theorem filed_of_save {path : Path} (saved : store.save job newest files = (after, .ok path))
    (readable : Readable newest) (identified : newest.uid ≠ "") :
    store.Filed job after ⟨store.runPath job newest.uid, newest⟩ := by
  rcases save_ok saved with ⟨rfl, written⟩
  rcases writeBelow_ok written with ⟨checked, reaches, steady, texts⟩
  have isName := isName_runName newest.uid
  rw [runPath_eq_join] at checked reaches texts
  have seen : after.textAt (after.destination (store.jobDirectory job) ++ [runName newest.uid]) =
      some newest.encode.pretty := by
    rw [texts, ← destination_join after _ isName, steady.destination, if_pos rfl]
  have read := (read_join_iff ((reaches_join_iff isName).mp reaches) isName).mpr ⟨checked, seen⟩
  exact ⟨⟨_, isName, (extension?_runName _).mpr identified, rfl⟩, _, read, readable⟩

/-- A run is among the first ones when few others may come before it. -/
theorem Lists.mem_take {count : Nat} (lists : store.Lists job files saved) (member : entry ∈ saved)
    (few : (saved.filter fun other =>
      other.path ≠ entry.path && comesFirst other.run entry.run).length < count) :
    entry ∈ saved.take count := by
  rcases List.append_of_mem member with ⟨earlier, later, rfl⟩
  have distinct := lists.distinct
  rw [List.map_append, List.nodup_append] at distinct
  have ahead : ∀ other ∈ earlier,
      (other.path ≠ entry.path && comesFirst other.run entry.run) = true := by
    intro other isEarlier
    have newer : other.run.AtLeast entry.run :=
      (List.pairwise_append.mp lists.sorted).2.2 other isEarlier entry List.mem_cons_self
    have different : other.path ≠ entry.path :=
      distinct.2.2 _ (List.mem_map_of_mem isEarlier) _ (by simp)
    rw [comesFirst_iff.mpr newer]
    simpa using different
  rw [List.filter_append, List.length_append, List.filter_eq_self.mpr ahead] at few
  have room : earlier.length < count := Nat.lt_of_le_of_lt (Nat.le_add_right _ _) few
  rw [List.take_append, List.mem_append]
  right
  rw [show count - earlier.length = (count - earlier.length - 1) + 1 by omega,
    List.take_succ_cons]
  exact List.mem_cons_self

theorem Filed.textAt (filed : store.Filed job files entry) :
    ∃ text, files.textAt (files.destination entry.path) = some text ∧
      decodeDocument Run.decode text = .ok entry.run := by
  have reaches := filed.reaches
  rcases filed with ⟨⟨name, isName, -, path⟩, text, read, decoded⟩
  rw [path] at read ⊢
  rw [destination_join files _ isName]
  exact ⟨text, ((read_join_iff reaches isName).mp read).2, decoded⟩

/-- A run that is among the first ones has few others that are newer. -/
theorem Lists.newer_lt {count : Nat} (lists : store.Lists job files saved)
    (member : entry ∈ saved.take count) :
    (saved.filter fun other => !comesFirst entry.run other.run).length < count := by
  rcases List.append_of_mem member with ⟨earlier, between, same⟩
  have isSaved : saved = earlier ++ entry :: (between ++ saved.drop count) := by
    rw [← List.cons_append, ← List.append_assoc, ← same, List.take_append_drop]
  have sorted := lists.sorted
  rw [isSaved, List.pairwise_append, List.pairwise_cons] at sorted
  have none : (entry :: (between ++ saved.drop count)).filter
      (fun other => !comesFirst entry.run other.run) = [] := by
    rw [List.filter_eq_nil_iff]
    intro other isLater
    rw [Bool.not_eq_true', Bool.not_eq_false, comesFirst_iff]
    rcases List.mem_cons.mp isLater with rfl | later
    · exact le_refl (α := WithBot String ×ₗ String) _
    · exact sorted.2.1.1 other later
  have short : (saved.take count).length ≤ count := List.length_take_le _ _
  rw [same, List.length_append, List.length_cons] at short
  rw [isSaved, List.filter_append, none, List.append_nil]
  have fewer := List.length_filter_le (fun other => !comesFirst entry.run other.run) earlier
  omega

/-- What pruning leaves are the runs that come first. -/
theorem Lists.filed_prune_iff {keep : Nat} (lists : store.Lists job files saved)
    (loaded : store.loadAll job files = .ok saved)
    (reaches : files.Reaches (store.jobDirectory job)) :
    store.Filed job (store.prune job keep files).1 entry ↔ entry ∈ saved.take keep := by
  rcases lists.prune loaded keep with ⟨pruned, outcome, steady, texts⟩
  rw [outcome]
  constructor
  · intro filed
    rcases filed.textAt with ⟨text, seen, -⟩
    rw [steady.destination, texts] at seen
    split at seen
    · cases seen
    · next kept =>
        have before : store.Filed job files entry :=
          filed.of_text reaches (by rw [steady.destination, texts, if_neg kept])
        have member := (lists.mem_iff entry).mpr before
        rw [← List.take_append_drop keep saved, List.mem_append] at member
        exact member.resolve_right fun dropped => kept (List.mem_map_of_mem dropped)
  · intro first
    have filed := (lists.mem_iff entry).mp (List.mem_of_mem_take first)
    apply filed.kept steady
    rw [texts, if_neg]
    intro removed
    rcases List.mem_map.mp removed with ⟨other, dropped, same⟩
    have otherFiled := (lists.mem_iff other).mp (List.mem_of_mem_drop dropped)
    have paths : entry.path ≠ other.path := by
      have distinct := lists.distinct
      rw [← List.take_append_drop keep saved, List.map_append, List.nodup_append] at distinct
      exact distinct.2.2 _ (List.mem_map_of_mem first) _ (List.mem_map_of_mem dropped)
    exact filed.destination_ne otherFiled paths same.symm

end RunStore

/-! A write that may fail changes the text of one place at most. -/

structure Rewrites (before after : Files) (path : Path) (text : String) : Prop where
  steady : Steady before after
  textAt : ∀ place, after.textAt place = before.textAt place ∨
    (place = before.destination path ∧ after.textAt place = some text)

namespace Rewrites

variable {path : Path} {text : String}

theorem of_steady (steady : Steady files after)
    (texts : ∀ place, after.textAt place = files.textAt place) : Rewrites files after path text :=
  ⟨steady, fun place => .inl (texts place)⟩

theorem of_written (steady : Steady files after)
    (texts : ∀ place, after.textAt place =
      if place = files.destination path then some text else files.textAt place) :
    Rewrites files after path text := by
  refine ⟨steady, fun place => ?_⟩
  rw [texts]
  split
  · next same => exact .inr ⟨same, rfl⟩
  · exact .inl rfl

theorem writeFile (files : Files) (path : Path) (text : String) :
    Rewrites files (writeFile files path text).1 path text := by
  unfold ExportWatch.writeFile
  cases written : files.write path text with
  | ok after =>
      rcases write_ok written with ⟨-, -, steady, texts⟩
      exact .of_written steady texts
  | error fault => exact .of_steady (.refl files) fun _ => rfl

theorem writeBelow (files : Files) (directory path : Path) (text : String) :
    Rewrites files (writeBelow files directory path text).1 path text := by
  have making := makeDirectories_steady files directory
  unfold ExportWatch.writeBelow
  split
  · next made same =>
      rw [same] at making
      have writing := Rewrites.writeFile made path text
      refine ⟨making.1.trans writing.steady, fun place => ?_⟩
      rw [← making.2, ← making.1.destination]
      exact writing.textAt place
  · next made fault same =>
      rw [same] at making
      exact .of_steady making.1 making.2

theorem exportRuns (files : Files) (path : Path) (runs : List Run) :
    Rewrites files (exportRuns path runs files).1 path (Run.encodeAll runs).pretty := by
  unfold ExportWatch.exportRuns
  cases path.parent? with
  | none => exact .writeFile files path _
  | some directory => exact .writeBelow files directory path _

theorem filed (rewrites : Rewrites files after path text) (filed : store.Filed job files entry)
    (apart : files.destination path ≠ files.destination entry.path) :
    store.Filed job after entry := by
  apply filed.kept rewrites.steady
  rcases rewrites.textAt (files.destination entry.path) with same | ⟨same, -⟩
  · exact same
  · exact absurd same.symm apart

/-- A list of runs is no run, so none is found where it is written. -/
theorem filed_before {runs : List Run}
    (rewrites : Rewrites files after path (Run.encodeAll runs).pretty)
    (reaches : files.Reaches (store.jobDirectory job)) (filed : store.Filed job after entry) :
    store.Filed job files entry := by
  rcases filed.textAt with ⟨text, seen, decoded⟩
  rcases rewrites.textAt (after.destination entry.path) with same | ⟨-, written⟩
  · apply filed.of_text reaches
    rw [same, rewrites.steady.destination]
  · rw [written, Option.some.injEq] at seen
    rcases Run.not_decoded_encodeAll runs with ⟨fault, refused⟩
    rw [seen, decoded] at refused
    cases refused

end Rewrites

/-- Only the file that is written to may no longer be taken for a run. -/
theorem filed_exportAll (exportPath : Option Path) (runs : List Run)
    (reaches : files.Reaches (store.jobDirectory job)) :
    Steady files (exportAll exportPath runs files).1 ∧
      (store.Filed job (exportAll exportPath runs files).1 entry → store.Filed job files entry) ∧
      (store.Filed job files entry →
        (∀ target ∈ exportPath, files.destination target ≠ files.destination entry.path) →
          store.Filed job (exportAll exportPath runs files).1 entry) := by
  cases exportPath with
  | none => exact ⟨.refl files, id, fun filed _ => filed⟩
  | some path =>
      have rewrites := Rewrites.exportRuns files path runs
      rw [exportAll_some]
      exact ⟨rewrites.steady, rewrites.filed_before reaches,
        fun filed apart => rewrites.filed filed (apart path rfl)⟩

/-! The report. -/

theorem saved_exportAll (exportPath : Option Path) (runs : List Run) (files : Files) :
    (exportAll exportPath runs files).2.saved = [] := by
  unfold exportAll
  cases exportPath with
  | none => rfl
  | some path =>
      simp only []
      split <;> rfl

theorem saveNewest_reported {path : Path}
    (reported : path ∈ (saveNewest store job newest files).2.saved) :
    ∃ written, store.save job newest files = (written, .ok path) ∧
      saveNewest store job newest files =
        ((store.prune job runsKept written).1, ⟨["Saved: " ++ path.text], [path]⟩) := by
  unfold saveNewest at reported ⊢
  split at reported
  · next written other same =>
      rw [List.mem_singleton.mp reported, same]
      exact ⟨written, rfl, rfl⟩
  · cases reported

/-- After pruning and exporting the runs that come first are found, unless one is exported over,
and no others. -/
theorem filed_after_save {path : Path} {written : Files} (exportPath : Option Path)
    (runs : List Run) (tidy : files.Tidy) (named : (store.jobDirectory job).text ≠ "")
    (outcome : store.save job newest files = (written, .ok path))
    (loaded : store.loadAll job written = .ok saved) :
    let final := (exportAll exportPath runs (store.prune job runsKept written).1).1
    store.Lists job written saved ∧ Steady written final ∧ final.Tidy ∧
      (∀ entry, store.Filed job final entry → entry ∈ saved.take runsKept) ∧
      ∀ entry ∈ saved.take runsKept,
        (∀ target ∈ exportPath, files.destination target ≠ files.destination entry.path) →
          store.Filed job final entry := by
  intro final
  rcases writeBelow_ok (save_ok outcome).2 with ⟨-, reaches, steadySave, -⟩
  have reachesJob : written.Reaches (store.jobDirectory job) :=
    (reaches_join_iff (isName_runName _)).mp ((save_ok outcome).1 ▸ reaches)
  have tidyWritten := steadySave.tidyAll tidy
  have lists := lists_of_loadAll (tidyWritten _) named loaded
  have filedPruned (entry : SavedRun) :
      store.Filed job (store.prune job runsKept written).1 entry ↔ entry ∈ saved.take runsKept :=
    lists.filed_prune_iff loaded reachesJob
  rcases lists.prune loaded runsKept with ⟨pruned, removing, steadyPrune, -⟩
  rw [removing] at filedPruned
  have isFinal : final = (exportAll exportPath runs pruned).1 := by simp only [final, removing]
  have exporting (entry : SavedRun) : Steady pruned final ∧
      (store.Filed job final entry → store.Filed job pruned entry) ∧
      (store.Filed job pruned entry →
        (∀ target ∈ exportPath, pruned.destination target ≠ pruned.destination entry.path) →
          store.Filed job final entry) :=
    isFinal ▸ filed_exportAll exportPath runs (steadyPrune.reaches reachesJob)
  have steady := steadyPrune.trans (exporting ⟨path, newest⟩).1
  refine ⟨lists, steady, steady.tidyAll tidyWritten, ?_, ?_⟩
  · exact fun entry filed => (filedPruned entry).mp ((exporting entry).2.1 filed)
  · intro entry first apart
    apply (exporting entry).2.2 ((filedPruned entry).mpr first)
    simpa only [steadyPrune.destination, steadySave.destination] using apart

theorem processCompleted_cons (store : RunStore) (exportPath : Option Path) (job : String)
    (newest : Run) (others : List Run) (files : Files) :
    processCompleted (some store) exportPath job (newest :: others) files =
      ((exportAll exportPath (newest :: others) (saveNewest store job newest files).1).1,
        (saveNewest store job newest files).2.append
          (exportAll exportPath (newest :: others) (saveNewest store job newest files).1).2) := by
  rw [processCompleted, saveFirst_cons]

theorem processCompleted_reported {exportPath : Option Path} {others : List Run} {path : Path}
    (reported : path ∈
      (processCompleted (some store) exportPath job (newest :: others) files).2.saved) :
    ∃ written, store.save job newest files = (written, .ok path) ∧
      (processCompleted (some store) exportPath job (newest :: others) files).1 =
        (exportAll exportPath (newest :: others) (store.prune job runsKept written).1).1 ∧
      "Saved: " ++ path.text ∈
        (processCompleted (some store) exportPath job (newest :: others) files).2.messages := by
  rw [processCompleted_cons, Processed.append, saved_exportAll, List.append_nil] at reported
  rcases saveNewest_reported reported with ⟨written, outcome, result⟩
  rw [processCompleted_cons, result]
  exact ⟨written, outcome, rfl, List.mem_append_left _ List.mem_cons_self⟩

theorem mem_saved_processCompleted {exportPath : Option Path} {others : List Run} {path : Path}
    (outcome : (store.save job newest files).2 = .ok path) :
    path ∈ (processCompleted (some store) exportPath job (newest :: others) files).2.saved := by
  rcases saveNewest_ok outcome with ⟨written, saved, -⟩
  rw [processCompleted_cons, Processed.append, saved_exportAll, List.append_nil, saveNewest, saved]
  exact List.mem_cons_self

/-- A run that is reported as saved can be read back from its file, and is among the runs that are
loaded, when fewer than five other runs may come before it. -/
theorem reported_run_is_in_history {exportPath : Option Path} {others : List Run} {path : Path}
    (tidy : files.Tidy) (named : (store.jobDirectory job).text ≠ "") (readable : Readable newest)
    (identified : newest.uid ≠ "")
    (apart : ∀ target ∈ exportPath,
      files.destination target ≠ files.destination (store.runPath job newest.uid))
    (few : (store.rivals job newest files).length < runsKept)
    (reported : path ∈
      (processCompleted (some store) exportPath job (newest :: others) files).2.saved) :
    let processed := processCompleted (some store) exportPath job (newest :: others) files
    path = store.runPath job newest.uid ∧ "Saved: " ++ path.text ∈ processed.2.messages ∧
      (∃ text, processed.1.read path = .ok text ∧
        decodeDocument Run.decode text = .ok newest) ∧
      ∃ runs, store.loadRecent job runsKept processed.1 = .ok runs ∧ newest ∈ runs := by
  intro processed
  rcases processCompleted_reported reported with ⟨written, outcome, isFinal, message⟩
  have isRunPath := (save_ok outcome).1
  subst isRunPath
  have filed := filed_of_save outcome readable identified
  rcases filed.loadAll (.refl written) named with ⟨saved, loaded⟩
  rcases filed_after_save exportPath (newest :: others) tidy named outcome loaded with
    ⟨lists, steady, tidyFinal, among, kept⟩
  rw [← isFinal] at steady tidyFinal among kept
  rw [rivals, outcome, ← ((perm_found loaded).filter _).length_eq] at few
  have first := lists.mem_take ((lists.mem_iff _).mpr filed) few
  have filedFinal := kept _ first apart
  rcases filedFinal.loadAll (.refl processed.1) named with ⟨left, loadedLeft⟩
  have listsLeft := lists_of_loadAll (tidyFinal _) named loadedLeft
  have noNew : left ⊆ saved := fun entry member =>
    List.mem_of_mem_take (among entry ((listsLeft.mem_iff entry).mp member))
  have fewLeft := (List.subperm_of_subset (listsLeft.distinct.of_map.filter _)
    (List.filter_subset _ noNew)).length_le.trans_lt few
  have last := listsLeft.mem_take ((listsLeft.mem_iff _).mpr filedFinal) fewLeft
  rcases filedFinal.holds with ⟨text, read, decoded⟩
  refine ⟨rfl, message, ⟨text, read, decoded⟩, (left.take runsKept).map (·.run), ?_,
    List.mem_map_of_mem last⟩
  rw [loadRecent, loadedLeft]
  rfl

/-- Five newer runs put a run out of the history, though it is reported as saved. -/
theorem reported_run_is_lost {exportPath : Option Path} {others : List Run} {path : Path}
    (tidy : files.Tidy) (named : (store.jobDirectory job).text ≠ "")
    (many : runsKept ≤ (store.newerRuns job newest files).length)
    (reported : path ∈
      (processCompleted (some store) exportPath job (newest :: others) files).2.saved) :
    ∃ runs, store.loadRecent job runsKept
        (processCompleted (some store) exportPath job (newest :: others) files).1 = .ok runs ∧
      newest ∉ runs := by
  rcases processCompleted_reported reported with ⟨written, outcome, isFinal, -⟩
  rw [newerRuns, outcome] at many
  rcases List.exists_mem_of_length_pos (Nat.lt_of_lt_of_le (by decide) many) with ⟨newer, member⟩
  have isFound := (List.mem_filter.mp member).1
  rcases loadAll_of_found isFound with ⟨saved, loaded⟩
  rcases filed_after_save exportPath (newest :: others) tidy named outcome loaded with
    ⟨lists, steady, tidyFinal, among, -⟩
  rw [← isFinal] at steady tidyFinal among
  have filed := (lists.mem_iff newer).mp ((perm_found loaded).mem_iff.mpr isFound)
  rcases filed.loadAll steady named with ⟨left, loadedLeft⟩
  have listsLeft := lists_of_loadAll (tidyFinal _) named loadedLeft
  refine ⟨(left.take runsKept).map (·.run), by rw [loadRecent, loadedLeft]; rfl, ?_⟩
  intro stays
  rcases List.mem_map.mp stays with ⟨entry, isLeft, rfl⟩
  have first := among entry ((listsLeft.mem_iff entry).mp (List.mem_of_mem_take isLeft))
  have fewer := lists.newer_lt first
  rw [((perm_found loaded).filter _).length_eq] at fewer
  exact absurd many (Nat.not_le.mpr fewer)

theorem steady_saveEach {before : Files} {saves : List (String × Run)}
    (saved : store.saveEach saves before = .ok after) : Steady before after := by
  induction saves generalizing before with
  | nil =>
      cases saved
      exact .refl after
  | cons save later induction =>
      rcases save with ⟨job, run⟩
      rw [saveEach] at saved
      split at saved
      · next written path outcome =>
          rcases writeBelow_ok (save_ok outcome).2 with ⟨-, -, steady, -⟩
          exact steady.trans (induction saved)
      · cases saved

theorem tidy_home : (Files.empty ["home"]).Tidy := by
  apply tidy_empty
  intro name member
  rw [List.mem_singleton.mp member]
  exact ⟨by decide, by decide, by decide, by decide⟩

/-- A run is saved for a job that has a newer one, and both are exported. -/
theorem reported_run_is_in_history_of_two :
    ∃ files, (save ⟨⟨"runs"⟩⟩ "a/b" (plainRun "2" (some "2016")) (.empty ["home"])).1 = files ∧
      let processed := processCompleted (some ⟨⟨"runs"⟩⟩) (some ⟨"out/runs.json"⟩) "a/b"
        [plainRun "1" (some "2015"), plainRun "2" (some "2016")] files
      (∃ text, processed.1.read (runPath ⟨⟨"runs"⟩⟩ "a/b" "1") = .ok text ∧
        decodeDocument Run.decode text = .ok (plainRun "1" (some "2015"))) ∧
        ∃ runs, loadRecent ⟨⟨"runs"⟩⟩ "a/b" runsKept processed.1 = .ok runs ∧
          plainRun "1" (some "2015") ∈ runs := by
  have saved : (save ⟨⟨"runs"⟩⟩ "a/b" (plainRun "2" (some "2016")) (.empty ["home"])).2 =
      .ok (runPath ⟨⟨"runs"⟩⟩ "a/b" "2") := by decide +kernel
  have savedNext : (save ⟨⟨"runs"⟩⟩ "a/b" (plainRun "1" (some "2015"))
      (save ⟨⟨"runs"⟩⟩ "a/b" (plainRun "2" (some "2016")) (.empty ["home"])).1).2 =
        .ok (runPath ⟨⟨"runs"⟩⟩ "a/b" "1") := by decide +kernel
  have listed : ((save ⟨⟨"runs"⟩⟩ "a/b" (plainRun "1" (some "2015"))
      (save ⟨⟨"runs"⟩⟩ "a/b" (plainRun "2" (some "2016")) (.empty ["home"])).1).1.list
        (jobDirectory ⟨⟨"runs"⟩⟩ "a/b")).toOption = some ["2.json", "1.json"] := by decide +kernel
  have apart : (save ⟨⟨"runs"⟩⟩ "a/b" (plainRun "2" (some "2016")) (.empty ["home"])).1.destination
      ⟨"out/runs.json"⟩ ≠ (save ⟨⟨"runs"⟩⟩ "a/b" (plainRun "2" (some "2016"))
        (.empty ["home"])).1.destination (runPath ⟨⟨"runs"⟩⟩ "a/b" "1") := by decide +kernel
  rcases outcome : save ⟨⟨"runs"⟩⟩ "a/b" (plainRun "2" (some "2016")) (.empty ["home"]) with
    ⟨files, result⟩
  rw [outcome] at saved savedNext listed apart
  cases saved
  rcases writeBelow_ok (save_ok outcome).2 with ⟨-, -, steady, -⟩
  have tidy := steady.tidyAll tidy_home
  have few : (rivals ⟨⟨"runs"⟩⟩ "a/b" (plainRun "1" (some "2015")) files).length < runsKept :=
    (length_rivals_le (toOption_eq_some_iff.mp listed)).trans_lt (by decide)
  have spared : ∀ target ∈ some (Path.mk "out/runs.json"), files.destination target ≠
      files.destination (runPath ⟨⟨"runs"⟩⟩ "a/b" "1") := by
    rintro target ⟨⟩
    exact apart
  have reported : runPath ⟨⟨"runs"⟩⟩ "a/b" "1" ∈ (processCompleted (some ⟨⟨"runs"⟩⟩)
      (some ⟨"out/runs.json"⟩) "a/b" [plainRun "1" (some "2015"), plainRun "2" (some "2016")]
        files).2.saved := mem_saved_processCompleted savedNext
  have history := reported_run_is_in_history tidy (by decide +kernel)
    (readable_plainRun "1" (some "2015")) (by decide) spared few reported
  exact ⟨files, rfl, history.2.2⟩

/-- A run is reported as saved, and is not among those that are loaded. -/
def ReportedAndLost (store : RunStore) (exportPath : Option Path) (job : String) (newest : Run)
    (files : Files) : Prop :=
  let processed := processCompleted (some store) exportPath job [newest] files
  store.runPath job newest.uid ∈ processed.2.saved ∧
    ∃ runs, store.loadRecent job runsKept processed.1 = .ok runs ∧ newest ∉ runs

theorem reportedAndLost_of_absent {exportPath : Option Path}
    (saved : (store.save job newest files).2 = .ok (store.runPath job newest.uid))
    (absent : (store.loadRecent job runsKept
      (processCompleted (some store) exportPath job [newest] files).1).toOption.any
        (newest ∉ ·) = true) : ReportedAndLost store exportPath job newest files := by
  rcases (Option.any_eq_true _ _).mp absent with ⟨runs, loaded, notLoaded⟩
  exact ⟨mem_saved_processCompleted saved, runs, toOption_eq_some_iff.mp loaded,
    of_decide_eq_true notLoaded⟩

/-- Six runs are held, and the last of them comes after the others. -/
theorem five_newerRuns {later : Files}
    (saved : saveEach ⟨⟨"runs"⟩⟩ (["1", "2", "3", "4", "5"].map fun uid =>
      ("job", plainRun uid (some "2016"))) (.empty ["home"]) = .ok later)
    (savedLast : (save ⟨⟨"runs"⟩⟩ "job" (plainRun "6" (some "2015")) later).2 =
      .ok (runPath ⟨⟨"runs"⟩⟩ "job" "6")) :
    runsKept ≤ (newerRuns ⟨⟨"runs"⟩⟩ "job" (plainRun "6" (some "2015")) later).length := by
  let entries : List SavedRun := ["1", "2", "3", "4", "5"].map fun uid =>
    ⟨runPath ⟨⟨"runs"⟩⟩ "job" uid, plainRun uid (some "2016")⟩
  have readable : ∀ save ∈ ["1", "2", "3", "4", "5"].map fun uid =>
      ("job", plainRun uid (some "2016")), Readable save.2 := by
    intro save member
    rcases List.mem_map.mp member with ⟨uid, -, rfl⟩
    exact readable_plainRun uid (some "2016")
  rcases outcome : save ⟨⟨"runs"⟩⟩ "job" (plainRun "6" (some "2015")) later with ⟨written, result⟩
  rw [outcome] at savedLast
  cases savedLast
  have holds := ((vacant_empty.holds.saveEach readable saved).save
    (readable_plainRun "6" (some "2015")) outcome).2
  have held : ∀ uid ∈ ["1", "2", "3", "4", "5"],
      Filed ⟨⟨"runs"⟩⟩ "job" written
        ⟨runPath ⟨⟨"runs"⟩⟩ "job" uid, plainRun uid (some "2016")⟩ := by
    intro uid member
    refine holds.filed_iff.mpr ⟨?_, ?_, rfl⟩
    · simp only [List.mem_cons, List.not_mem_nil, or_false] at member
      rcases member with rfl | rfl | rfl | rfl | rfl <;> simp [Contents.saving, plainRun]
    · rintro rfl
      exact absurd member (by decide)
  have later : ∀ uid ∈ ["1", "2", "3", "4", "5"],
      comesFirst (plainRun "6" (some "2015")) (plainRun uid (some "2016")) = false := by
    decide +kernel
  have directory : (jobDirectory ⟨⟨"runs"⟩⟩ "job").text ≠ "" :=
    text_jobDirectory_ne (by decide) "job"
  rcases holds.loadAll directory with ⟨all, loaded, -, -⟩
  have tidy := holds.tidy (jobPlace "job")
  rw [← destination_jobDirectory] at tidy
  have lists := lists_of_loadAll tidy directory loaded
  have distinct : entries.Nodup := by decide +kernel
  rw [newerRuns, outcome]
  refine (List.subperm_of_subset distinct ?_).length_le
  intro entry member
  rcases List.mem_map.mp member with ⟨uid, isUid, rfl⟩
  rw [List.mem_filter, ← (perm_found loaded).mem_iff, lists.mem_iff, later uid isUid]
  exact ⟨held uid isUid, rfl⟩

/-- Five runs are newer; the export replaces the file; there is no identifier; the duration is not
read back; or the directory has no name. -/
theorem reported_run_may_be_lost :
    (∃ later, saveEach ⟨⟨"runs"⟩⟩ (["1", "2", "3", "4", "5"].map fun uid =>
        ("job", plainRun uid (some "2016"))) (.empty ["home"]) = .ok later ∧
      ReportedAndLost ⟨⟨"runs"⟩⟩ none "job" (plainRun "6" (some "2015")) later) ∧
    ReportedAndLost ⟨⟨"runs"⟩⟩ (some ⟨"runs/job/1.json"⟩) "job" (plainRun "1" none)
      (.empty ["home"]) ∧
    ReportedAndLost ⟨⟨"runs"⟩⟩ none "job" (plainRun "" none) (.empty ["home"]) ∧
    ReportedAndLost ⟨⟨"runs"⟩⟩ none "job"
      { plainRun "1" none with duration := some (.seconds 9.992497928518063) } (.empty ["home"]) ∧
    ReportedAndLost ⟨⟨""⟩⟩ none "" (plainRun "1" none) (.empty ["home"]) := by
  refine ⟨?fiveNewer, ?exported, ?noIdentifier, ?notReadBack, ?noName⟩
  case fiveNewer =>
    have checked : (saveEach ⟨⟨"runs"⟩⟩ (["1", "2", "3", "4", "5"].map fun uid =>
        ("job", plainRun uid (some "2016"))) (.empty ["home"])).toOption.any (fun later =>
          (save ⟨⟨"runs"⟩⟩ "job" (plainRun "6" (some "2015")) later).2.toOption =
            some (runPath ⟨⟨"runs"⟩⟩ "job" "6")) = true := by decide +kernel
    rcases (Option.any_eq_true _ _).mp checked with ⟨later, isLater, isSaved⟩
    have saved := toOption_eq_some_iff.mp isLater
    have savedLast := toOption_eq_some_iff.mp (of_decide_eq_true isSaved)
    have reported : runPath ⟨⟨"runs"⟩⟩ "job" "6" ∈ (processCompleted (some ⟨⟨"runs"⟩⟩) none "job"
        [plainRun "6" (some "2015")] later).2.saved := mem_saved_processCompleted savedLast
    exact ⟨later, saved, reported, reported_run_is_lost ((steady_saveEach saved).tidyAll tidy_home)
      (by decide +kernel) (five_newerRuns saved savedLast) reported⟩
  case exported => exact reportedAndLost_of_absent (by decide +kernel) (by decide +kernel)
  case noIdentifier => exact reportedAndLost_of_absent (by decide +kernel) (by decide +kernel)
  case notReadBack => exact reportedAndLost_of_absent (by decide +kernel) (by decide +kernel)
  case noName => exact reportedAndLost_of_absent (by decide +kernel) (by decide +kernel)

end ExportWatch

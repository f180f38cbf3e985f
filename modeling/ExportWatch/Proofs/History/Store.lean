import ExportWatch.Proofs.History.Listing

/-! What a store holds. Its files are read as a map from jobs to runs, and saving, loading
and removing do to the files what they would do to the map. -/

namespace ExportWatch

open Json Files FileNode

variable {files after : Files}

theorem writeFile_ok {path : Path} {text : String}
    (written : writeFile files path text = (after, .ok ())) :
    files.write path text = .ok after := by
  unfold writeFile at written
  split at written
  · next same =>
      cases written
      exact same
  · cases written

/-- A file is written at its destination, whatever directories are made for it. -/
theorem writeBelow_ok {directory path : Path} {text : String}
    (written : writeBelow files directory path text = (after, .ok ())) :
    checkText path = .ok () ∧ after.Reaches path ∧ Steady files after ∧
      ∀ place, after.textAt place =
        if place = files.destination path then some text else files.textAt place := by
  unfold writeBelow at written
  split at written
  · next made same =>
      have making := makeDirectories_steady files directory
      rw [same] at making
      rcases write_ok (writeFile_ok written) with ⟨checked, reaches, steady, texts⟩
      refine ⟨checked, steady.reaches reaches, making.1.trans steady, ?_⟩
      intro place
      rw [texts, making.1.destination, making.2]
  · cases written

namespace RunStore

/-- Nothing is stored: the directory is missing, or it is there and empty. -/
def Vacant (store : RunStore) (files : Files) : Prop :=
  files.root.itemAt (files.destination store.root) = none ∨
    files.root.itemAt (files.destination store.root) = some (.directory [])

/-- A run that survives being written and read. -/
def Readable (run : Run) : Prop :=
  decodeDocument Run.decode run.encode.pretty = .ok run

/-- A text that holds no run. -/
def Unread (text : String) : Prop :=
  ∃ fault, decodeDocument Run.decode text = .error fault

/-- Which runs are held for which job. -/
abbrev Contents : Type :=
  String → Run → Prop

/-- Each held run is in its file, and in the directories of jobs no other file is taken for
a run. -/
structure Holds (store : RunStore) (files : Files) (contents : Contents) : Prop where
  textAt_run : ∀ job run, contents job run →
    files.textAt (files.destination store.root ++ runPlace job run.uid) = some run.encode.pretty
  held_or_unread : ∀ job name text,
    files.textAt (files.destination store.root ++ (jobPlace job ++ [name])) = some text →
      (∃ run, contents job run ∧ name = runName run.uid ∧ text = run.encode.pretty) ∨ Unread text
  no_file : ∀ job, files.textAt (files.destination store.root ++ jobPlace job) = none
  tidy : ∀ below, files.TidyAt (files.destination store.root ++ below)
  reaches : ∀ job run, contents job run → files.Reaches store.root
  checked : ∀ job run, contents job run → checkText (store.runPath job run.uid) = .ok ()
  readable : ∀ job run, contents job run → Readable run

variable {store : RunStore} {contents : Contents} {job : String} {run : Run}

theorem Vacant.itemAt (vacant : store.Vacant files) (below : Place) :
    files.root.itemAt (files.destination store.root ++ below) = none ∨
      files.root.itemAt (files.destination store.root ++ below) = some (.directory []) := by
  cases below with
  | nil =>
      rw [List.append_nil]
      exact vacant
  | cons name others =>
      left
      rcases vacant with missing | empty
      · apply bare_of_free
        rintro ⟨names, seen⟩
        rw [missing] at seen
        cases seen
      · rcases find_of_names empty with ⟨entries, found, none⟩
        rw [List.map_eq_nil_iff.mp none] at found
        rw [itemAt_append found]
        exact bare_empty name others

theorem Vacant.textAt (vacant : store.Vacant files) (below : Place) :
    files.textAt (files.destination store.root ++ below) = none := by
  rw [Files.textAt]
  rcases vacant.itemAt below with missing | empty
  · rw [missing]
  · rw [empty]

theorem Vacant.holds (vacant : store.Vacant files) : store.Holds files fun _ _ => False where
  textAt_run := nofun
  held_or_unread := by
    intro job name text seen
    rw [vacant.textAt] at seen
    cases seen
  no_file := fun job => vacant.textAt _
  tidy := by
    intro below names seen
    rcases vacant.itemAt below with missing | empty
    · rw [missing] at seen
      cases seen
    · rw [empty] at seen
      cases seen
      exact ⟨List.nodup_nil, nofun⟩
  reaches := nofun
  checked := nofun
  readable := nofun

namespace Holds

theorem congr {other : Contents} (holds : store.Holds files contents)
    (same : ∀ job run, contents job run ↔ other job run) : store.Holds files other := by
  have equal : contents = other := funext fun job => funext fun run => propext (same job run)
  exact equal ▸ holds

/-- Under one identifier a job has one run. -/
theorem eq_of_uid {other : Run} (holds : store.Holds files contents) (held : contents job run)
    (heldToo : contents job other) (same : run.uid = other.uid) : run = other := by
  have text := holds.textAt_run job run held
  rw [same, holds.textAt_run job other heldToo, Option.some.injEq] at text
  have read := holds.readable job run held
  rw [Readable, ← text, holds.readable job other heldToo] at read
  exact (Except.ok.inj read).symm

/-- A file without a run may be written where there is no directory of a job. It replaces what was
held there. -/
theorem of_write {place : Place} {text : String} (holds : store.Holds files contents)
    (steady : Steady files after)
    (texts : ∀ other, after.textAt other = if other = place then some text else files.textAt other)
    (unread : Unread text)
    (notJob : ∀ job, place ≠ files.destination store.root ++ jobPlace job) :
    store.Holds after fun job run =>
      contents job run ∧ place ≠ files.destination store.root ++ runPlace job run.uid where
  textAt_run := by
    rintro job run ⟨held, notRun⟩
    rw [steady.destination, texts, if_neg notRun.symm]
    exact holds.textAt_run job run held
  held_or_unread := by
    intro job name written seen
    rw [steady.destination, texts] at seen
    split at seen
    · cases seen
      exact .inr unread
    · next different =>
        rcases holds.held_or_unread job name written seen with ⟨run, held, rfl, same⟩ | unread
        · exact .inl ⟨run, ⟨held, Ne.symm different⟩, rfl, same⟩
        · exact .inr unread
  no_file := by
    intro job
    rw [steady.destination, texts, if_neg (Ne.symm (notJob job))]
    exact holds.no_file job
  tidy := by
    intro below
    rw [steady.destination]
    exact steady.tidy _ (holds.tidy below)
  reaches := fun job run held => steady.reaches (holds.reaches job run held.1)
  checked := fun job run held => holds.checked job run held.1
  readable := fun job run held => holds.readable job run held.1

/-- When one file of a run changes, so does what is held under its identifier. -/
theorem of_change {uid : String} {written : Option String} {changed : Contents}
    (holds : store.Holds files contents) (steady : Steady files after)
    (texts : ∀ place, after.textAt place =
      if place = files.destination store.root ++ runPlace job uid then written
      else files.textAt place)
    (here : ∀ text, written = some text ↔
      ∃ run, changed job run ∧ run.uid = uid ∧ text = run.encode.pretty)
    (elsewhere : ∀ other run, ¬ (other = job ∧ run.uid = uid) →
      (changed other run ↔ contents other run))
    (reaches : after.Reaches store.root) (checked : checkText (store.runPath job uid) = .ok ())
    (readable : ∀ run, changed job run → run.uid = uid → Readable run) :
    store.Holds after changed where
  textAt_run := by
    intro other run held
    rw [steady.destination, texts]
    by_cases same : other = job ∧ run.uid = uid
    · rcases same with ⟨rfl, uid⟩
      rw [if_pos (by rw [uid])]
      exact (here _).mpr ⟨run, held, uid, rfl⟩
    · rw [if_neg fun equal => same (runPlace_eq_iff.mp (List.append_cancel_left equal))]
      exact holds.textAt_run other run ((elsewhere other run same).mp held)
  held_or_unread := by
    intro other name text seen
    rw [steady.destination, texts] at seen
    split at seen
    · next equal =>
        rcases eq_of_runPlace (List.append_cancel_left equal) with ⟨rfl, rfl⟩
        rcases (here text).mp seen with ⟨run, held, uid, same⟩
        exact .inl ⟨run, held, by rw [uid], same⟩
    · next different =>
        rcases holds.held_or_unread other name text seen with ⟨run, held, rfl, same⟩ | unread
        · refine .inl ⟨run, (elsewhere other run ?_).mpr held, rfl, same⟩
          rintro ⟨rfl, uid⟩
          exact different (by rw [uid]; rfl)
        · exact .inr unread
  no_file := by
    intro other
    rw [steady.destination, texts, if_neg]
    · exact holds.no_file other
    · exact fun equal => jobPlace_ne_runPlace other job uid (List.append_cancel_left equal)
  tidy := by
    intro below
    rw [steady.destination]
    exact steady.tidy _ (holds.tidy below)
  reaches := fun _ _ _ => reaches
  checked := by
    intro other run held
    by_cases same : other = job ∧ run.uid = uid
    · rw [same.1, same.2]
      exact checked
    · exact holds.checked other run ((elsewhere other run same).mp held)
  readable := by
    intro other run held
    by_cases same : other = job ∧ run.uid = uid
    · exact readable run (same.1 ▸ held) same.2
    · exact holds.readable other run ((elsewhere other run same).mp held)

end Holds

/-! Saving. -/

namespace Contents

/-- A run takes the place of the one saved under the same identifier. -/
def saving (contents : Contents) (job : String) (run : Run) : Contents := fun other held =>
  (other = job ∧ held = run) ∨ (contents other held ∧ ¬ (other = job ∧ held.uid = run.uid))

def removing (contents : Contents) (job : String) (removed : List Run) : Contents :=
  fun other held => contents other held ∧ ¬ (other = job ∧ held ∈ removed)

end Contents

theorem save_ok {path : Path} (saved : store.save job run files = (after, .ok path)) :
    path = store.runPath job run.uid ∧
      writeBelow files (store.jobDirectory job) path run.encode.pretty = (after, .ok ()) := by
  unfold save at saved
  simp only [] at saved
  split at saved
  · next same =>
      cases saved
      exact ⟨rfl, same⟩
  · cases saved

theorem Holds.save {path : Path} (holds : store.Holds files contents) (readable : Readable run)
    (saved : store.save job run files = (after, .ok path)) :
    Steady files after ∧ store.Holds after (contents.saving job run) := by
  rcases save_ok saved with ⟨rfl, written⟩
  rcases writeBelow_ok written with ⟨checked, reaches, steady, texts⟩
  rw [destination_runPath] at texts
  refine ⟨steady, holds.of_change steady texts ?_ ?_ (reaches_runPath_iff.mp reaches) checked ?_⟩
  · intro text
    rw [Option.some.injEq]
    constructor
    · rintro rfl
      exact ⟨run, .inl ⟨rfl, rfl⟩, rfl, rfl⟩
    · rintro ⟨held, ⟨-, rfl⟩ | ⟨-, different⟩, uid, rfl⟩
      · rfl
      · exact absurd ⟨rfl, uid⟩ different
  · intro other held different
    constructor
    · rintro (⟨rfl, rfl⟩ | ⟨kept, -⟩)
      · exact absurd ⟨rfl, rfl⟩ different
      · exact kept
    · exact fun kept => .inr ⟨kept, different⟩
  · rintro held (⟨-, rfl⟩ | ⟨-, different⟩) uid
    · exact readable
    · exact absurd ⟨rfl, uid⟩ different

/-! Loading. -/

namespace Holds

theorem not_file_jobDirectory {text : String} (holds : store.Holds files contents) :
    files.find (store.jobDirectory job) ≠ .ok (.file text) := by
  intro found
  have seen := textAt_of_find (find_root_of_find found)
  rw [destination_jobDirectory, holds.no_file] at seen
  cases seen

/-- Of the files in a job's directory, those of the held runs are taken for runs. -/
theorem filed_iff {entry : SavedRun} (holds : store.Holds files contents) :
    store.Filed job files entry ↔ contents job entry.run ∧ entry.run.uid ≠ "" ∧
      entry.path = store.runPath job entry.run.uid := by
  have placeOf (name : String) : files.destination (store.jobDirectory job) ++ [name] =
      files.destination store.root ++ (jobPlace job ++ [name]) := by
    rw [destination_jobDirectory, List.append_assoc]
  constructor
  · rintro ⟨⟨name, isName, extension, path⟩, text, read, decoded⟩
    rw [path] at read
    have reaches := (reaches_join_iff isName).mp (reaches_of_find (find_of_read read))
    have seen := ((read_join_iff reaches isName).mp read).2
    rw [placeOf] at seen
    rcases holds.held_or_unread job name text seen with ⟨held, kept, rfl, rfl⟩ | unread
    · have itself := holds.readable _ _ kept
      rw [Readable, decoded, Except.ok.injEq] at itself
      rw [itself]
      exact ⟨kept, (extension?_runName _).mp extension, path⟩
    · rcases unread with ⟨fault, refused⟩
      rw [decoded] at refused
      cases refused
  · rintro ⟨held, filled, path⟩
    have reaches : files.Reaches (store.jobDirectory job) :=
      reaches_jobDirectory_iff.mpr (holds.reaches job _ held)
    have read : files.read (store.runPath job entry.run.uid) = .ok entry.run.encode.pretty := by
      refine (read_join_iff reaches (isName_runName _)).mpr ⟨holds.checked job _ held, ?_⟩
      rw [placeOf]
      exact holds.textAt_run job _ held
    rw [← path] at read
    exact ⟨⟨_, isName_runName _, (extension?_runName _).mpr filled, path⟩, _, read,
      holds.readable job _ held⟩

/-- Runs without an identifier are passed over. -/
theorem loadAll (holds : store.Holds files contents) (named : (store.jobDirectory job).text ≠ "") :
    ∃ saved, store.loadAll job files = .ok saved ∧
      (∀ entry ∈ saved, entry.path = store.runPath job entry.run.uid) ∧
      Ranking (saved.map (·.run)) fun run => contents job run ∧ run.uid ≠ "" := by
  have tidy := holds.tidy (jobPlace job)
  rw [← destination_jobDirectory] at tidy
  rcases loadAll_of_no_file fun text => holds.not_file_jobDirectory with ⟨saved, loaded⟩
  have lists := lists_of_loadAll tidy named loaded
  have filed : ∀ entry ∈ saved, contents job entry.run ∧ entry.run.uid ≠ "" ∧
      entry.path = store.runPath job entry.run.uid := fun entry member =>
    holds.filed_iff.mp ((lists.mem_iff entry).mp member)
  refine ⟨saved, loaded, fun entry member => (filed entry member).2.2, .of_sorted ?_ ?_ ?_⟩
  · intro run
    rw [List.mem_map]
    constructor
    · rintro ⟨entry, member, rfl⟩
      exact ⟨(filed entry member).1, (filed entry member).2.1⟩
    · rintro ⟨held, filled⟩
      exact ⟨⟨store.runPath job run.uid, run⟩,
        (lists.mem_iff _).mpr (holds.filed_iff.mpr ⟨held, filled, rfl⟩), rfl⟩
  · apply nodup_rank
    rw [List.Nodup, List.pairwise_map, List.pairwise_map]
    refine (List.pairwise_map.mp lists.distinct).imp_of_mem ?_
    intro first second firstMember secondMember different same
    rw [(filed first firstMember).2.2, (filed second secondMember).2.2, same] at different
    exact different rfl
  · exact List.pairwise_map.mpr lists.sorted

theorem exists_ranking (holds : store.Holds files contents)
    (named : (store.jobDirectory job).text ≠ "") :
    ∃ ranked, Ranking ranked fun run => contents job run ∧ run.uid ≠ "" := by
  rcases holds.loadAll named with ⟨saved, -, -, ranking⟩
  exact ⟨_, ranking⟩

theorem loadRecent {ranked : List Run} (holds : store.Holds files contents)
    (named : (store.jobDirectory job).text ≠ "")
    (ranking : Ranking ranked fun run => contents job run ∧ run.uid ≠ "") (limit : Nat) :
    store.loadRecent job limit files = .ok (ranked.take limit) := by
  rcases holds.loadAll named with ⟨saved, loaded, -, other⟩
  rw [loadRecent_of_loadAll loaded, ranking.unique other]

/-! Removing. -/

theorem remove (holds : store.Holds files contents) (held : contents job run) :
    ∃ after, files.remove (store.runPath job run.uid) = .ok after ∧ Steady files after ∧
      store.Holds after (contents.removing job [run]) := by
  have reaches : files.Reaches (store.jobDirectory job) :=
    reaches_jobDirectory_iff.mpr (holds.reaches job run held)
  have seen := holds.textAt_run job run held
  rw [runPlace, ← List.append_assoc, ← destination_jobDirectory] at seen
  rcases remove_join reaches (isName_runName _) (holds.checked job run held) seen with
    ⟨after, removed, steady, texts⟩
  rw [destination_jobDirectory, List.append_assoc, ← runPlace] at texts
  have gone : ∀ other, contents.removing job [run] job other → other.uid ≠ run.uid := by
    rintro other ⟨kept, notRemoved⟩ uid
    exact notRemoved ⟨rfl, List.mem_singleton.mpr (holds.eq_of_uid kept held uid)⟩
  refine ⟨after, removed, steady, holds.of_change steady texts ?_ ?_
    (steady.reaches (holds.reaches job run held)) (holds.checked job run held) ?_⟩
  · intro text
    constructor
    · intro impossible
      cases impossible
    · rintro ⟨other, stays, uid, -⟩
      exact absurd uid (gone other stays)
  · intro other stays different
    constructor
    · exact And.left
    · refine fun kept => ⟨kept, ?_⟩
      rintro ⟨rfl, isRun⟩
      exact different ⟨rfl, by rw [List.mem_singleton.mp isRun]⟩
  · exact fun other stays uid => absurd uid (gone other stays)

theorem removeAll {dropped : List SavedRun} (holds : store.Holds files contents)
    (held : ∀ entry ∈ dropped, contents job entry.run ∧
      entry.path = store.runPath job entry.run.uid)
    (distinct : (dropped.map (·.run)).Nodup) (before : Nat) :
    ∃ after removed, RunStore.removeAll files before (dropped.map (·.path)) = (after, .ok removed) ∧
      Steady files after ∧ store.Holds after (contents.removing job (dropped.map (·.run))) := by
  induction dropped generalizing files contents before with
  | nil =>
      refine ⟨files, before, rfl, .refl files, holds.congr ?_⟩
      intro other run
      simp [Contents.removing]
  | cons head tail induction =>
      rcases held head List.mem_cons_self with ⟨headHeld, path⟩
      rcases holds.remove headHeld with ⟨middle, gone, steady, holdsMiddle⟩
      rw [List.map_cons, List.nodup_cons] at distinct
      have tailHeld : ∀ entry ∈ tail, contents.removing job [head.run] job entry.run ∧
          entry.path = store.runPath job entry.run.uid := by
        intro entry member
        rcases held entry (List.mem_cons_of_mem _ member) with ⟨kept, entryPath⟩
        refine ⟨⟨kept, ?_⟩, entryPath⟩
        rintro ⟨-, isHead⟩
        apply distinct.1
        rw [← List.mem_singleton.mp isHead]
        exact List.mem_map_of_mem member
      rcases induction holdsMiddle tailHeld distinct.2 (before + 1) with
        ⟨after, removed, others, steadyAfter, holdsAfter⟩
      refine ⟨after, removed, ?_, steady.trans steadyAfter, holdsAfter.congr ?_⟩
      · rw [List.map_cons, RunStore.removeAll, path, gone]
        exact others
      · intro other run
        simp only [Contents.removing, List.map_cons, List.mem_cons, List.not_mem_nil, or_false]
        tauto

/-- Pruning goes well, and all but the newest runs are gone. -/
theorem prune {ranked : List Run} (holds : store.Holds files contents)
    (named : (store.jobDirectory job).text ≠ "")
    (ranking : Ranking ranked fun run => contents job run ∧ run.uid ≠ "") (keep : Nat) :
    ∃ after removed, store.prune job keep files = (after, .ok removed) ∧ Steady files after ∧
      store.Holds after (contents.removing job (ranked.drop keep)) := by
  rcases holds.loadAll named with ⟨saved, loaded, paths, other⟩
  have same : (saved.drop keep).map (·.run) = ranked.drop keep := by
    rw [List.map_drop, other.unique ranking]
  have held : ∀ entry ∈ saved.drop keep, contents job entry.run ∧
      entry.path = store.runPath job entry.run.uid := by
    intro entry dropped
    have inside := List.mem_of_mem_drop dropped
    exact ⟨((other.mem_iff _).mp (List.mem_map_of_mem inside)).1, paths entry inside⟩
  have distinct : ((saved.drop keep).map (·.run)).Nodup := by
    rw [same]
    exact ranking.nodup.drop
  rw [prune_of_loadAll loaded, ← same]
  exact holds.removeAll held distinct 0

end Holds

end RunStore

end ExportWatch

import ExportWatch.Proofs.History.Pruned
import ExportWatch.Proofs.Time.Instant

/-! How the order in which runs are listed goes with the time. The texts of their starts are in
order. So later runs come first where the starts are written in the same way, and where they are
not, runs are no more than three days out of order. -/

namespace ExportWatch

open Files Timestamp RunStore

variable {files after : Files} {store : RunStore} {job : String} {entry : SavedRun}
  {saved : List SavedRun} {keep removed : Nat}

def Run.StartsAt (run : Run) (written : Written) : Prop :=
  written.Valid ∧ run.startedAt = some (String.ofList written.text)

theorem Run.exists_startsAt_iff {run : Run} :
    (∃ written, run.StartsAt written) ↔
      ∃ text, run.startedAt = some text ∧ (Timestamp.read? text.toList).isSome = true := by
  constructor
  · intro starts
    rcases starts with ⟨written, valid, started⟩
    refine ⟨_, started, ?_⟩
    rw [String.toList_ofList, valid.read?_text]
    rfl
  · intro started
    rcases started with ⟨text, started, isRead⟩
    rcases Option.isSome_iff_exists.mp isRead with ⟨time, read⟩
    rcases Written.of_read? read with ⟨written, valid, same, -⟩
    refine ⟨written, valid, ?_⟩
    rw [started, ← same, String.ofList_toList]

/-- Where the starts are written in the same way, the second run did not start later. In any case it
started less than three days later. -/
def Run.Chronological (first second : Run) : Prop :=
  ∀ one other : Written, first.StartsAt one → second.StartsAt other →
    other.minutes < one.minutes + 3 * 1440 ∧ (one.Alike other → other.instant ≤ one.instant)

theorem Run.AtLeast.chronological {first second : Run} (atLeast : first.AtLeast second) :
    first.Chronological second := by
  intro one other firstStarts secondStarts
  rcases firstStarts with ⟨valid, started⟩
  rcases secondStarts with ⟨otherValid, otherStarted⟩
  have starts : second.start ≤ first.start := (Prod.Lex.toLex_le_toLex'.mp atLeast).1
  rw [Run.start, Run.start, started, otherStarted, WithBot.coe_le_coe, ← not_lt,
    String.lt_iff_toList_lt, String.toList_ofList, String.toList_ofList] at starts
  refine ⟨Written.minutes_lt_of_text_le valid otherValid (not_lt.mp starts), fun alike => ?_⟩
  by_contra later
  exact starts (Written.text_lt_of_instant_lt valid otherValid alike (not_le.mp later))

namespace RunStore

/-- Whatever the directory of a job holds, its runs are listed in an order that goes with the time
as far as their starts are written in the same way, and so are those that are kept and those that
are removed. -/
theorem history_chronological (tidy : files.Tidy)
    (noFile : ∀ text, files.find (store.jobDirectory job) ≠ .ok (.file text)) :
    (∃ all : List Run, all.Perm ((store.found job files).map (·.run)) ∧
      all.Pairwise Run.Chronological ∧
      ∀ limit, store.loadRecent job limit files = .ok (all.take limit)) ∧
    ∀ keep, ∃ after removed, store.prune job keep files = (after, .ok removed) ∧
      ∀ kept ∈ store.found job after, ∀ gone ∈ store.found job files,
        gone ∉ store.found job after → kept.run.Chronological gone.run := by
  rcases loadAll_of_no_file noFile with ⟨saved, loaded⟩
  have sorted := (sorted_of_loadAll loaded).imp Run.AtLeast.chronological
  have perm := perm_found loaded
  refine ⟨⟨saved.map (·.run), perm.map _, List.pairwise_map.mpr sorted,
    loadRecent_of_loadAll loaded⟩, fun keep => ?_⟩
  rcases (prune_succeeds_iff tidy).mpr noFile with ⟨after, removed, pruned⟩
  rcases perm_of_prune tidy loaded pruned with ⟨left, leftLoaded, leftPerm⟩
  have found_iff (entry : SavedRun) : entry ∈ store.found job after ↔ entry ∈ saved.take keep :=
    (perm_found leftLoaded).mem_iff.symm.trans leftPerm.mem_iff
  refine ⟨after, removed, pruned, ?_⟩
  intro kept isKept gone wasFound isGone
  rw [found_iff] at isKept isGone
  have member := perm.mem_iff.mpr wasFound
  rw [← List.take_append_drop keep saved] at member sorted
  exact (List.pairwise_append.mp sorted).2.2 kept isKept gone
    ((List.mem_append.mp member).resolve_left isGone)

theorem loadAll_of_sorted (member : entry ∈ store.found job files)
    (apart : Apart (store.found job files))
    (sorted : (store.found job files).Pairwise fun first second =>
      comesFirst first.run second.run = true) :
    store.loadAll job files = .ok (store.found job files) := by
  rcases loadAll_of_found member with ⟨saved, loaded⟩
  rw [loaded, apart.unique (perm_found loaded) (sorted_of_loadAll loaded)
    (sorted.imp comesFirst_iff.mp)]

private theorem offsets_saved :
    let runs := [plainRun "1" (some "2015-06-01T10:00:00+02:00"),
      plainRun "2" (some "2015-06-01T09:00:00Z")]
    ∃ files, saveEach ⟨⟨"runs"⟩⟩ (runs.map (("job", ·))) (.empty ["home"]) = .ok files ∧
      files.Tidy ∧ (found ⟨⟨"runs"⟩⟩ "job" files).map (·.run) = runs ∧
        Apart (found ⟨⟨"runs"⟩⟩ "job" files) ∧
          loadAll ⟨⟨"runs"⟩⟩ "job" files = .ok (found ⟨⟨"runs"⟩⟩ "job" files) := by
  intro runs
  have checked : (saveEach ⟨⟨"runs"⟩⟩ (runs.map (("job", ·))) (.empty ["home"])).toOption.any
      (fun files => (found ⟨⟨"runs"⟩⟩ "job" files).map (·.run) = runs ∧
        Apart (found ⟨⟨"runs"⟩⟩ "job" files) ∧
          (found ⟨⟨"runs"⟩⟩ "job" files).Pairwise fun first second =>
            comesFirst first.run second.run = true) = true := by decide +kernel
  rcases (Option.any_eq_true _ _).mp checked with ⟨files, isFiles, holds⟩
  rcases of_decide_eq_true holds with ⟨same, apart, sorted⟩
  have saved := toOption_eq_some_iff.mp isFiles
  have positive : 0 < (found ⟨⟨"runs"⟩⟩ "job" files).length := by
    rw [← List.length_map, same]
    exact Nat.two_pos
  rcases List.exists_mem_of_length_pos positive with ⟨entry, member⟩
  exact ⟨files, saved, (steady_saveEach saved).tidyAll tidy_home, same, apart,
    loadAll_of_sorted member apart sorted⟩

/-- Two runs are saved, and start an hour apart. -/
theorem history_chronological_of_two :
    ∃ files, saveEach ⟨⟨"runs"⟩⟩ [("job", plainRun "1" (some "2015-06-01T10:00:00+02:00")),
        ("job", plainRun "2" (some "2015-06-01T09:00:00Z"))] (.empty ["home"]) = .ok files ∧
      (∃ all : List Run, all.length = 2 ∧ all.Pairwise Run.Chronological ∧
        loadRecent ⟨⟨"runs"⟩⟩ "job" 5 files = .ok (all.take 5)) ∧
      ∃ after removed, prune ⟨⟨"runs"⟩⟩ "job" 1 files = (after, .ok removed) := by
  rcases offsets_saved with ⟨files, saved, tidy, same, -, -⟩
  have two : (found ⟨⟨"runs"⟩⟩ "job" files).length = 2 := by
    rw [← List.length_map, same]
    rfl
  rcases List.exists_mem_of_length_pos (two.symm ▸ Nat.two_pos) with ⟨entry, member⟩
  rcases history_chronological tidy (no_file_of_found member) with
    ⟨⟨all, perm, ordered, listing⟩, pruning⟩
  rcases pruning 1 with ⟨after, removed, pruned, -⟩
  refine ⟨files, saved, ⟨all, ?_, ordered, listing 5⟩, after, removed, pruned⟩
  rw [perm.length_eq, List.length_map, two]

/-- Ten o'clock at an offset of two hours is before nine o'clock in universal time. It is listed
first all the same, and kept when the other run is removed. -/
theorem history_not_chronological :
    let earlier : Written := ⟨"2015".toList, "06".toList, "01".toList, 'T', "10".toList,
      "00".toList, "00".toList, [], .offset '+' "02".toList "00".toList⟩
    let later : Written := ⟨"2015".toList, "06".toList, "01".toList, 'T', "09".toList,
      "00".toList, "00".toList, [], .universal 'Z'⟩
    let earlierRun := plainRun "1" (some "2015-06-01T10:00:00+02:00")
    let laterRun := plainRun "2" (some "2015-06-01T09:00:00Z")
    earlierRun.StartsAt earlier ∧ laterRun.StartsAt later ∧ earlier.instant < later.instant ∧
      ∃ files, saveEach ⟨⟨"runs"⟩⟩ [("job", earlierRun), ("job", laterRun)] (.empty ["home"]) =
          .ok files ∧
        loadRecent ⟨⟨"runs"⟩⟩ "job" 2 files = .ok [earlierRun, laterRun] ∧
        ∃ after, prune ⟨⟨"runs"⟩⟩ "job" 1 files = (after, .ok 1) ∧
          loadRecent ⟨⟨"runs"⟩⟩ "job" 2 after = .ok [earlierRun] := by
  intro earlier later earlierRun laterRun
  refine ⟨⟨by decide +kernel, rfl⟩, ⟨by decide +kernel, rfl⟩,
    Written.instant_lt_iff.mpr (.inl (by decide +kernel)), ?_⟩
  rcases offsets_saved with ⟨files, saved, tidy, same, apart, loaded⟩
  have two : (found ⟨⟨"runs"⟩⟩ "job" files).length = 2 := by
    rw [← List.length_map, same]
    rfl
  rcases prune_loaded tidy loaded 1 with ⟨after, pruned, -⟩
  have left := loadAll_of_prune tidy loaded apart pruned
  rw [List.length_drop, two] at pruned
  refine ⟨files, saved, ?_, after, pruned, ?_⟩
  · rw [loadRecent_of_loadAll loaded, same]
    rfl
  · rw [loadRecent_of_loadAll left, List.map_take, same]
    rfl

end RunStore

end ExportWatch

import ExportWatch.History.Completed
import ExportWatch.Proofs.History.Saved

/-! The history after many jobs were processed. Each time a run is saved all but the newest
of its job are removed, and what is left in the end are the newest runs ever saved. -/

namespace ExportWatch

open RunStore Files Run

structure Completion where
  job : String
  runs : List Run
  exportPath : Option Path

namespace Completion

def perform (call : Completion) (store : RunStore) (files : Files) : Files :=
  (processCompleted (some store) call.exportPath call.job call.runs files).1

/-- Neither saving the newest run fails, nor exporting them all. -/
structure Succeeds (call : Completion) (store : RunStore) (files : Files) : Prop where
  saves : ∀ newest ∈ call.runs.head?, ∃ path, (store.save call.job newest files).2 = .ok path
  exports : ∀ path ∈ call.exportPath,
    (exportRuns path call.runs (saveFirst (some store) call.job call.runs files).1).2 = .ok ()

end Completion

/-- Calls that succeed one after the other. -/
inductive Performed (store : RunStore) (start : Files) : List Completion → Files → Prop where
  | none : Performed store start [] start
  | next {calls : List Completion} {files : Files} (earlier : Performed store start calls files)
      (call : Completion) (succeeds : call.Succeeds store files) :
      Performed store start (calls ++ [call]) (call.perform store files)

/-- The runs that calls save for a job. -/
def savedFor (job : String) (calls : List Completion) : List Run :=
  (calls.filter (·.job = job)).filterMap (·.runs.head?)

/-- Runs that survive being written and read, and have an identifier of their own. -/
structure Proper (runs : List Run) : Prop where
  readable : ∀ run ∈ runs, Readable run
  named : ∀ run ∈ runs, run.uid ≠ ""
  distinct : (runs.map (·.uid)).Nodup

theorem Proper.of_append {runs others : List Run} (proper : Proper (runs ++ others)) :
    Proper runs where
  readable := fun run member => proper.readable run (List.mem_append_left _ member)
  named := fun run member => proper.named run (List.mem_append_left _ member)
  distinct := by
    have distinct := proper.distinct
    rw [List.map_append] at distinct
    exact (List.nodup_append.mp distinct).1

theorem Proper.last {runs : List Run} {last : Run} (proper : Proper (runs ++ [last])) :
    Readable last ∧ last.uid ≠ "" ∧ ∀ run ∈ runs, run.uid ≠ last.uid := by
  refine ⟨proper.readable last (by simp), proper.named last (by simp), ?_⟩
  intro run member
  have distinct := proper.distinct
  rw [List.map_append] at distinct
  exact (List.nodup_append.mp distinct).2.2 _ (List.mem_map_of_mem member) _ (by simp)

/-- For each job that has a directory the newest of the runs saved for it are held. -/
def Keeps (store : RunStore) (files : Files) (calls : List Completion) : Prop :=
  ∃ contents, store.Holds files contents ∧
    ∀ job, (store.jobDirectory job).text ≠ "" →
      ∃ ranked, Ranking ranked (· ∈ savedFor job calls) ∧
        ∀ run, contents job run ↔ run ∈ ranked.take runsKept

variable {store : RunStore} {files after start final : Files} {calls : List Completion}
  {call : Completion}

theorem savedFor_append (job : String) (calls : List Completion) (call : Completion) :
    savedFor job (calls ++ [call]) =
      savedFor job calls ++ if call.job = job then call.runs.head?.toList else [] := by
  rcases call with ⟨other, runs, exportPath⟩
  unfold savedFor
  rw [List.filter_append, List.filterMap_append]
  by_cases same : other = job
  · cases runs <;> simp [same]
  · simp [same]

/-! Saving and removing one run at a time. -/

theorem saveNewest_ok {job : String} {newest : Run} {path : Path}
    (saved : (store.save job newest files).2 = .ok path) :
    ∃ written, store.save job newest files = (written, .ok path) ∧
      (saveNewest store job newest files).1 = (store.prune job runsKept written).1 := by
  unfold saveNewest
  rcases outcome : store.save job newest files with ⟨written, result⟩
  rw [outcome] at saved
  cases saved
  exact ⟨written, rfl, rfl⟩

theorem holds_saveNewest {contents : Contents} {job : String} {newest : Run} {path : Path}
    {ranked : List Run} {among : Run → Prop} (holds : store.Holds files contents)
    (directory : (store.jobDirectory job).text ≠ "") (ranking : Ranking ranked among)
    (kept : ∀ run, contents job run ↔ run ∈ ranked.take runsKept)
    (named : ∀ run, among run → run.uid ≠ "") (new : ∀ run, among run → run.uid ≠ newest.uid)
    (newestNamed : newest.uid ≠ "") (readable : Readable newest)
    (saved : (store.save job newest files).2 = .ok path) :
    ∃ changed, Steady files (saveNewest store job newest files).1 ∧
      store.Holds (saveNewest store job newest files).1 changed ∧
      (∀ other, other ≠ job → ∀ run, changed other run ↔ contents other run) ∧
      ∀ run, changed job run ↔ run ∈ (ranked.orderedInsert AtLeast newest).take runsKept := by
  rcases saveNewest_ok saved with ⟨written, saved, result⟩
  rcases holds.save readable saved with ⟨steady, holdsWritten⟩
  have amongKept : ∀ run ∈ ranked.take runsKept, among run := fun run member =>
    (ranking.mem_iff run).mp (List.mem_of_mem_take member)
  have short := (ranking.take runsKept).orderedInsert fun run member =>
    new run (amongKept run member)
  have held : ∀ run, contents.saving job newest job run ↔
      run = newest ∨ run ∈ ranked.take runsKept := by
    intro run
    rw [Contents.saving, kept]
    constructor
    · rintro (⟨-, same⟩ | ⟨member, -⟩)
      · exact .inl same
      · exact .inr member
    · rintro (same | member)
      · exact .inl ⟨rfl, same⟩
      · exact .inr ⟨member, fun same => new run (amongKept run member) same.2⟩
  have ranks : Ranking ((ranked.take runsKept).orderedInsert AtLeast newest) fun run =>
      contents.saving job newest job run ∧ run.uid ≠ "" := by
    refine ⟨fun run => (short.mem_iff run).trans ?_, short.sorted⟩
    rw [held]
    constructor
    · rintro (rfl | member)
      · exact ⟨.inl rfl, newestNamed⟩
      · exact ⟨.inr member, named run (amongKept run member)⟩
    · exact And.left
  rcases holdsWritten.prune directory ranks runsKept with
    ⟨pruned, removed, outcome, steadyPruned, holdsPruned⟩
  rw [result, outcome]
  refine ⟨_, steady.trans steadyPruned, holdsPruned, ?_, ?_⟩
  · intro other different run
    simp [Contents.removing, Contents.saving, different]
  · intro run
    rw [← take_orderedInsert, short.mem_take_iff, Contents.removing, held, short.mem_iff]
    simp

/-- Without a directory for the job none of its runs is removed. -/
theorem holds_saveNewest_of_unnamed {contents : Contents} {job : String} {newest : Run}
    {path : Path} (holds : store.Holds files contents)
    (unnamed : (store.jobDirectory job).text = "") (readable : Readable newest) (saved : (store.save job newest files).2 = .ok path) :
    Steady files (saveNewest store job newest files).1 ∧
      store.Holds (saveNewest store job newest files).1 (contents.saving job newest) := by
  rcases saveNewest_ok saved with ⟨written, saved, result⟩
  rw [result, prune_of_loadAll (loadAll_of_unnamed unnamed)]
  exact holds.save readable saved

/-- Of a single run none is removed. -/
theorem saveNewest_first {job : String} {newest : Run} {path : Path} {written : Files}
    (vacant : store.Vacant files) (readable : Readable newest) (named : newest.uid ≠ "")
    (saved : store.save job newest files = (written, .ok path)) :
    (saveNewest store job newest files).1 = written := by
  rcases saveNewest_ok (congrArg Prod.snd saved) with ⟨same, savedSame, result⟩
  rw [saved] at savedSame
  cases savedSame
  rw [result]
  by_cases unnamed : (store.jobDirectory job).text = ""
  · rw [prune_of_loadAll (loadAll_of_unnamed unnamed)]
    rfl
  · rcases (vacant.holds.save readable saved).2.loadAll unnamed with ⟨found, loaded, -, ranking⟩
    have alone : Ranking [newest] fun run =>
        Contents.saving (fun _ _ => False) job newest job run ∧ run.uid ≠ "" := by
      refine ⟨fun run => ?_, List.pairwise_singleton _ _⟩
      rw [List.mem_singleton]
      constructor
      · rintro rfl
        exact ⟨.inl ⟨rfl, rfl⟩, named⟩
      · rintro ⟨⟨-, same⟩ | ⟨impossible, -⟩, -⟩
        · exact same
        · exact absurd impossible id
    have single : found.length = 1 := by
      have lengths := congrArg List.length (ranking.unique alone)
      rwa [List.length_map] at lengths
    have nothing : found.drop runsKept = [] := List.drop_eq_nil_of_le (by rw [single]; decide)
    rw [prune_of_loadAll loaded, nothing]
    rfl

theorem saveFirst_cons (store : RunStore) (job : String) (newest : Run) (others : List Run)
    (files : Files) :
    saveFirst (some store) job (newest :: others) files = saveNewest store job newest files :=
  rfl

theorem Keeps.saveFirst (keeps : Keeps store files calls)
    (proper : ∀ job, Proper (savedFor job (calls ++ [call])))
    (saves : ∀ newest ∈ call.runs.head?, ∃ path, (store.save call.job newest files).2 = .ok path) :
    Steady files (saveFirst (some store) call.job call.runs files).1 ∧
      Keeps store (saveFirst (some store) call.job call.runs files).1 (calls ++ [call]) := by
  rcases keeps with ⟨contents, holds, kept⟩
  rcases call with ⟨job, runs, exportPath⟩
  cases runs with
  | nil =>
      refine ⟨.refl files, contents, holds, ?_⟩
      intro other directory
      rw [savedFor_append]
      simpa using kept other directory
  | cons newest others =>
      rcases saves newest rfl with ⟨path, saved⟩
      have added : savedFor job (calls ++ [⟨job, newest :: others, exportPath⟩]) =
          savedFor job calls ++ [newest] := by
        rw [savedFor_append]
        simp
      have properJob := proper job
      rw [added] at properJob
      rcases properJob.last with ⟨readable, newestNamed, new⟩
      have elsewhere (other : String) (different : other ≠ job) :
          savedFor other (calls ++ [⟨job, newest :: others, exportPath⟩]) =
            savedFor other calls := by
        rw [savedFor_append]
        simp [different.symm]
      rw [saveFirst_cons]
      by_cases unnamed : (store.jobDirectory job).text = ""
      · rcases holds_saveNewest_of_unnamed holds unnamed readable saved with ⟨steady, holdsAfter⟩
        refine ⟨steady, _, holdsAfter, ?_⟩
        intro other directory
        have different : other ≠ job := fun same => directory (same ▸ unnamed)
        rcases kept other directory with ⟨ranked, ranking, members⟩
        rw [elsewhere other different]
        refine ⟨ranked, ranking, fun run => Iff.trans ?_ (members run)⟩
        simp [Contents.saving, different]
      · rcases kept job unnamed with ⟨ranked, ranking, members⟩
        rcases holds_saveNewest holds unnamed ranking members properJob.of_append.named new
          newestNamed readable saved with ⟨changed, steady, holdsAfter, unchanged, membersAfter⟩
        refine ⟨steady, changed, holdsAfter, ?_⟩
        intro other directory
        by_cases same : other = job
        · subst same
          refine ⟨_, ⟨fun run => ?_, (ranking.orderedInsert new).sorted⟩, membersAfter⟩
          rw [(ranking.orderedInsert new).mem_iff, added, List.mem_append, List.mem_singleton,
            or_comm]
        · rcases kept other directory with ⟨otherRanked, otherRanking, otherMembers⟩
          rw [elsewhere other same]
          exact ⟨otherRanked, otherRanking,
            fun run => (unchanged other same run).trans (otherMembers run)⟩

/-! Exporting. -/

theorem exportRuns_ok {path : Path} {runs : List Run}
    (exported : (exportRuns path runs files).2 = .ok ()) :
    Steady files (exportRuns path runs files).1 ∧
      ∀ place, (exportRuns path runs files).1.textAt place =
        if place = files.destination path then some (encodeAll runs).pretty
        else files.textAt place := by
  rcases outcome : exportRuns path runs files with ⟨after, result⟩
  rw [outcome] at exported
  cases exported
  unfold exportRuns at outcome
  simp only [] at outcome
  split at outcome
  · rcases writeBelow_ok outcome with ⟨-, -, steady, texts⟩
    exact ⟨steady, texts⟩
  · rcases write_ok (writeFile_ok outcome) with ⟨-, -, steady, texts⟩
    exact ⟨steady, texts⟩

theorem exportAll_some (path : Path) (runs : List Run) (files : Files) :
    (exportAll (some path) runs files).1 = (exportRuns path runs files).1 := by
  simp only [exportAll]
  split
  · next same => rw [same]
  · next same => rw [same]

/-- A path that is neither a job's directory nor the file of a run that is held after the calls. -/
def Spares (path : Path) (store : RunStore) (files : Files) (calls : List Completion) : Prop :=
  ∀ job, files.destination path ≠ files.destination (store.jobDirectory job) ∧
    ((store.jobDirectory job).text ≠ "" → ∀ ranked, Ranking ranked (· ∈ savedFor job calls) →
      ∀ run ∈ ranked.take runsKept,
        files.destination path ≠ files.destination (store.runPath job run.uid))

theorem Spares.steady {path : Path} (spares : Spares path store files calls)
    (steady : Steady files after) : Spares path store after calls := by
  intro job
  simp only [steady.destination]
  exact spares job

theorem Keeps.exportAll {exportPath : Option Path} {runs : List Run}
    (keeps : Keeps store files calls)
    (exports : ∀ path ∈ exportPath, (exportRuns path runs files).2 = .ok ())
    (spares : ∀ path ∈ exportPath, Spares path store files calls) :
    Steady files (exportAll exportPath runs files).1 ∧
      Keeps store (exportAll exportPath runs files).1 calls := by
  cases exportPath with
  | none => exact ⟨.refl files, keeps⟩
  | some path =>
      rcases exportRuns_ok (exports path rfl) with ⟨steady, texts⟩
      rcases keeps with ⟨contents, holds, kept⟩
      rw [exportAll_some]
      have notJob (job : String) :
          files.destination path ≠ files.destination store.root ++ jobPlace job := by
        rw [← destination_jobDirectory]
        exact (spares path rfl job).1
      refine ⟨steady, _, holds.of_write steady texts (not_decoded_encodeAll runs) notJob, ?_⟩
      intro job directory
      rcases kept job directory with ⟨ranked, ranking, members⟩
      refine ⟨ranked, ranking, fun run => ?_⟩
      rw [members, ← destination_runPath]
      exact and_iff_left_of_imp ((spares path rfl job).2 directory ranked ranking run)

theorem Keeps.perform (keeps : Keeps store files calls)
    (proper : ∀ job, Proper (savedFor job (calls ++ [call]))) (succeeds : call.Succeeds store files)
    (spares : ∀ path ∈ call.exportPath, Spares path store files (calls ++ [call])) :
    Steady files (call.perform store files) ∧
      Keeps store (call.perform store files) (calls ++ [call]) := by
  rcases keeps.saveFirst proper succeeds.saves with ⟨steady, keepsStored⟩
  rcases keepsStored.exportAll succeeds.exports fun path member =>
    (spares path member).steady steady with ⟨steadyAfter, keepsAfter⟩
  exact ⟨steady.trans steadyAfter, keepsAfter⟩

/-- No export replaces the file of a run that is held by then, or takes the place of a job's
directory. -/
def SparesHistory (store : RunStore) (start : Files) (calls : List Completion) : Prop :=
  ∀ earlier call later, calls = earlier ++ call :: later →
    ∀ path ∈ call.exportPath, Spares path store start (earlier ++ [call])

theorem sparesHistory_of_outside
    (outside : ∀ call ∈ calls, ∀ path ∈ call.exportPath,
      ¬ start.destination store.root <+: start.destination path) :
    SparesHistory store start calls := by
  intro earlier call later same path isPath job
  have apart := outside call (by simp [same]) path isPath
  constructor
  · rw [destination_jobDirectory]
    intro inside
    exact apart (inside ▸ List.prefix_append _ _)
  · intro _ _ _ run _
    rw [destination_runPath]
    intro inside
    exact apart (inside ▸ List.prefix_append _ _)

/-- Calls that all succeed, from a store where nothing is stored. -/
structure Processing (store : RunStore) (start : Files) (calls : List Completion) (final : Files) :
    Prop where
  vacant : store.Vacant start
  performed : Performed store start calls final
  proper : ∀ job, Proper (savedFor job calls)

theorem Processing.keeps (processing : Processing store start calls final)
    (spares : SparesHistory store start calls) : Steady start final ∧ Keeps store final calls := by
  rcases processing with ⟨vacant, performed, proper⟩
  induction performed with
  | none =>
      refine ⟨.refl start, _, vacant.holds, ?_⟩
      intro job _
      refine ⟨[], ⟨?_, List.Pairwise.nil⟩, ?_⟩
      · intro run
        simp [savedFor]
      · intro run
        simp
  | @next calls files earlier call succeeds induction =>
      have properEarlier : ∀ job, Proper (savedFor job calls) := by
        intro job
        have all := proper job
        rw [savedFor_append] at all
        exact all.of_append
      have sparesEarlier : SparesHistory store start calls := by
        intro before last later same
        exact spares before last (later ++ [call]) (by simp [same])
      rcases induction sparesEarlier properEarlier with ⟨steady, keeps⟩
      rcases keeps.perform proper succeeds fun path member =>
        (spares calls call [] rfl path member).steady steady with ⟨steadyAfter, keepsAfter⟩
      exact ⟨steady.trans steadyAfter, keepsAfter⟩

theorem Processing.loadRecent (processing : Processing store start calls final)
    (spares : SparesHistory store start calls) {job : String}
    (directory : (store.jobDirectory job).text ≠ "") :
    ∃ ranked, Ranking ranked (· ∈ savedFor job calls) ∧
      ∀ limit, store.loadRecent job limit final = .ok ((ranked.take runsKept).take limit) := by
  rcases (processing.keeps spares).2 with ⟨contents, holds, kept⟩
  rcases kept job directory with ⟨ranked, ranking, members⟩
  refine ⟨ranked, ranking, holds.loadRecent directory ⟨fun run => ?_, ranking.sorted.take⟩⟩
  rw [members]
  constructor
  · intro member
    have saved := (ranking.mem_iff run).mp (List.mem_of_mem_take member)
    exact ⟨member, (processing.proper job).named run saved⟩
  · exact And.left

/-- The history of a job depends only on which runs were saved for it. -/
theorem Processing.loadRecent_eq {other : RunStore} {otherStart otherFinal : Files}
    {others : List Completion} {job : String} (processing : Processing store start calls final)
    (spares : SparesHistory store start calls) (directory : (store.jobDirectory job).text ≠ "")
    (otherProcessing : Processing other otherStart others otherFinal)
    (otherSpares : SparesHistory other otherStart others)
    (otherDirectory : (other.jobDirectory job).text ≠ "")
    (same : ∀ run, run ∈ savedFor job others ↔ run ∈ savedFor job calls) (limit : Nat) :
    other.loadRecent job limit otherFinal = store.loadRecent job limit final := by
  rcases processing.loadRecent spares directory with ⟨ranked, ranking, loaded⟩
  rcases otherProcessing.loadRecent otherSpares otherDirectory with
    ⟨otherRanked, otherRanking, otherLoaded⟩
  have sameRanking : Ranking otherRanked (· ∈ savedFor job calls) :=
    ⟨fun run => (otherRanking.mem_iff run).trans (same run), otherRanking.sorted⟩
  rw [loaded, otherLoaded, sameRanking.unique ranking]

theorem savedFor_append_of_other {job : String} {more : List Completion}
    (elsewhere : ∀ call ∈ more, call.job ≠ job) :
    savedFor job (calls ++ more) = savedFor job calls := by
  have none : more.filter (·.job = job) = [] := by
    rw [List.filter_eq_nil_iff]
    intro call member
    simpa using elsewhere call member
  rw [savedFor, List.filter_append, none, List.append_nil, savedFor]

/-- Of all runs ever saved for a job that has a directory the five newest are kept, in whatever
order they were saved and whatever is done for other jobs. -/
theorem five_newest_kept (processing : Processing store start calls final)
    (spares : SparesHistory store start calls) (job : String)
    (directory : (store.jobDirectory job).text ≠ "") :
    (∃ ranked, Ranking ranked (· ∈ savedFor job calls) ∧
      ∀ limit, store.loadRecent job limit final = .ok ((ranked.take 5).take limit)) ∧
    (∀ limit runs, store.loadRecent job limit final = .ok runs → runs.length ≤ 5) ∧
    (∀ {other otherStart others otherFinal},
      Processing other otherStart others otherFinal → SparesHistory other otherStart others →
      (other.jobDirectory job).text ≠ "" → (savedFor job others).Perm (savedFor job calls) →
      ∀ limit, other.loadRecent job limit otherFinal = store.loadRecent job limit final) ∧
    ∀ {more later}, Processing store start (calls ++ more) later →
      SparesHistory store start (calls ++ more) → (∀ call ∈ more, call.job ≠ job) →
      ∀ limit, store.loadRecent job limit later = store.loadRecent job limit final := by
  refine ⟨processing.loadRecent spares directory, ?atMostFive, ?anyOrder, ?otherJobs⟩
  case atMostFive =>
    intro limit runs loaded
    rcases processing.loadRecent spares directory with ⟨ranked, -, loadedRanked⟩
    rw [loadedRanked] at loaded
    cases loaded
    exact Nat.le_trans (List.length_take_le' _ _) (List.length_take_le _ _)
  case anyOrder =>
    intro other otherStart others otherFinal otherProcessing otherSpares otherDirectory shuffled
    exact processing.loadRecent_eq spares directory otherProcessing otherSpares otherDirectory
      fun run => shuffled.mem_iff
  case otherJobs =>
    intro more later laterProcessing laterSpares elsewhere
    apply processing.loadRecent_eq spares directory laterProcessing laterSpares directory
    intro run
    rw [savedFor_append_of_other elsewhere]

/-! Completions of one job. -/

theorem proper_savedFor_of_job (job : String) (isJob : ∀ call ∈ calls, call.job = job)
    (proper : Proper (calls.filterMap (·.runs.head?))) (other : String) :
    Proper (savedFor other calls) := by
  unfold savedFor
  by_cases same : other = job
  · have all : calls.filter (·.job = other) = calls := by
      rw [List.filter_eq_self]
      intro call member
      simp [isJob call member, same]
    rw [all]
    exact proper
  · have none : calls.filter (·.job = other) = [] := by
      rw [List.filter_eq_nil_iff]
      intro call member
      simp [isJob call member, Ne.symm same]
    rw [none]
    exact ⟨nofun, nofun, List.nodup_nil⟩

theorem performed_of_first {newest : Run} {job : String} {path : Path} {written : Files}
    (others : List Run) (exportPath : Option Path) (vacant : store.Vacant start)
    (proper : Proper [newest])
    (saved : store.save job newest start = (written, .ok path))
    (exported : ∀ target ∈ exportPath, (exportRuns target (newest :: others) written).2 = .ok ()) :
    Performed store start [⟨job, newest :: others, exportPath⟩]
      (exportAll exportPath (newest :: others) written).1 := by
  have readable := proper.readable newest List.mem_cons_self
  have named := proper.named newest List.mem_cons_self
  have first := saveNewest_first vacant readable named saved
  have succeeds : Completion.Succeeds ⟨job, newest :: others, exportPath⟩ store start := by
    constructor
    · rintro run ⟨⟩
      exact ⟨path, congrArg Prod.snd saved⟩
    · rw [saveFirst_cons, first]
      exact exported
  have performed := Performed.none.next _ succeeds
  rw [Completion.perform, processCompleted] at performed
  simp only [saveFirst_cons, first] at performed
  exact performed

/-- An older run is saved after a newer one, and the newer one is also exported. -/
theorem five_newest_kept_of_two :
    let calls : List Completion := [⟨"a/b", [plainRun "1" (some "2016")], some ⟨"out/runs.json"⟩⟩,
      ⟨"a/b", [plainRun "2" (some "2015"), plainRun "1" (some "2016")], none⟩]
    ∃ final, Processing ⟨⟨"runs"⟩⟩ (.empty ["home"]) calls final ∧
      ∃ ranked, Ranking ranked (· ∈ savedFor "a/b" calls) ∧
        ∀ limit, loadRecent ⟨⟨"runs"⟩⟩ "a/b" limit final = .ok ((ranked.take 5).take limit) := by
  intro calls
  let store : RunStore := ⟨⟨"runs"⟩⟩
  let newer := plainRun "1" (some "2016")
  let older := plainRun "2" (some "2015")
  let written := (store.save "a/b" newer (.empty ["home"])).1
  have saved : store.save "a/b" newer (.empty ["home"]) =
      (written, .ok (store.runPath "a/b" "1")) := Prod.ext rfl (by decide +kernel)
  have proper : Proper [newer, older] := by
    refine ⟨?_, by simp [newer, older, plainRun], by simp [newer, older, plainRun]⟩
    simp [newer, older, readable_plainRun]
  have exported : ∀ target ∈ some (Path.mk "out/runs.json"),
      (exportRuns target [newer] written).2 = .ok () := by
    rintro target ⟨⟩
    decide +kernel
  have alone : Proper [newer] := proper.of_append
  have first := performed_of_first [] _ vacant_empty alone saved exported
  have second : Completion.Succeeds ⟨"a/b", [older, newer], none⟩ store
      (exportAll (some ⟨"out/runs.json"⟩) [newer] written).1 := by
    constructor
    · rintro run ⟨⟩
      exact ⟨store.runPath "a/b" "2", by decide +kernel⟩
    · nofun
  have processing : Processing store (.empty ["home"]) calls _ :=
    ⟨vacant_empty, first.next _ second,
      proper_savedFor_of_job "a/b" (by simp [calls]) proper⟩
  have spares : SparesHistory store (.empty ["home"]) calls := by
    apply sparesHistory_of_outside
    intro call member path isPath
    simp only [calls, List.mem_cons, List.not_mem_nil, or_false] at member
    rcases member with rfl | rfl
    · cases isPath
      decide +kernel
    · cases isPath
  have directory : (store.jobDirectory "a/b").text ≠ "" := by decide +kernel
  exact ⟨_, processing, (five_newest_kept processing spares "a/b" directory).1⟩

/-- An export may replace the file of a saved run, or stand where a job has its directory. And the
job without an identifier has no directory when the store is at an empty path. -/
theorem newest_may_not_be_kept :
    (∃ calls final, Processing ⟨⟨"runs"⟩⟩ (.empty ["home"]) calls final ∧
      savedFor "job" calls = [plainRun "1" none] ∧
        loadRecent ⟨⟨"runs"⟩⟩ "job" 5 final = .ok []) ∧
    (∃ calls final, Processing ⟨⟨"runs"⟩⟩ (.empty ["home"]) calls final ∧
      savedFor "job" calls = [] ∧ (loadRecent ⟨⟨"runs"⟩⟩ "job" 5 final).toOption = none) ∧
    ∃ calls final, Processing ⟨⟨""⟩⟩ (.empty ["home"]) calls final ∧
      savedFor "" calls = [plainRun "1" none] ∧ loadRecent ⟨⟨""⟩⟩ "" 5 final = .ok [] := by
  let store : RunStore := ⟨⟨"runs"⟩⟩
  let run := plainRun "1" none
  let written := (store.save "job" run (.empty ["home"])).1
  have proper : Proper [run] :=
    ⟨by simp [run, readable_plainRun], by simp [run, plainRun], by simp⟩
  refine ⟨?replaced, ?blocked, ?noDirectory⟩
  case replaced =>
    have saved : store.save "job" run (.empty ["home"]) =
        (written, .ok (store.runPath "job" "1")) := Prod.ext rfl (by decide +kernel)
    have first := performed_of_first [] none vacant_empty proper saved nofun
    have second : Completion.Succeeds ⟨"job", [], some ⟨"runs/job/1.json"⟩⟩ store written := by
      constructor
      · nofun
      · rintro path ⟨⟩
        decide +kernel
    refine ⟨_, _, ⟨vacant_empty, first.next _ second, ?_⟩, rfl, by decide +kernel⟩
    exact proper_savedFor_of_job "job" (by simp) proper
  case blocked =>
    have succeeds : Completion.Succeeds ⟨"job", [], some ⟨"runs/job"⟩⟩ store (.empty ["home"]) := by
      constructor
      · nofun
      · rintro path ⟨⟩
        decide +kernel
    refine ⟨_, _, ⟨vacant_empty, Performed.none.next _ succeeds, ?_⟩, rfl, by decide +kernel⟩
    exact proper_savedFor_of_job "job" (by simp) ⟨nofun, nofun, List.nodup_nil⟩
  case noDirectory =>
    let rootless : RunStore := ⟨⟨""⟩⟩
    have vacant : rootless.Vacant (.empty ["home"]) := .inr (by decide +kernel)
    have succeeds : (rootless.save "" run (.empty ["home"])).2 = .ok (rootless.runPath "" "1") := by
      decide +kernel
    rcases saved : rootless.save "" run (.empty ["home"]) with ⟨left, result⟩
    rw [saved] at succeeds
    cases succeeds
    have first := performed_of_first [] none vacant proper saved nofun
    exact ⟨_, _, ⟨vacant, first, proper_savedFor_of_job "" (by simp) proper⟩, rfl,
      loadRecent_of_loadAll (loadAll_of_unnamed rfl) 5⟩

end ExportWatch

import ExportWatch.Proofs.History.Store
import ExportWatch.Proofs.Record

/-! Runs saved one after the other. For each job the last one under each identifier is
loaded, in the order of the store. -/

namespace ExportWatch.RunStore

open Files

variable {store : RunStore} {before after : Files} {saves : List (String × Run)} {job : String}

/-- Saves of runs for jobs, of which none fails. -/
def saveEach (store : RunStore) : List (String × Run) → Files → Except FileTrouble Files
  | [], files => .ok files
  | (job, run) :: later, files =>
      match store.save job run files with
      | (written, .ok _) => store.saveEach later written
      | (_, .error trouble) => .error trouble

/-- No later run was saved for the job under the same identifier. -/
def LastSaved (saves : List (String × Run)) (job : String) (run : Run) : Prop :=
  ∃ earlier later, saves = earlier ++ (job, run) :: later ∧
    ∀ save ∈ later, ¬ (save.1 = job ∧ save.2.uid = run.uid)

def contentsOf (saves : List (String × Run)) : Contents :=
  saves.foldl (fun contents save => contents.saving save.1 save.2) fun _ _ => False

theorem lastSaved_append_iff {last : String × Run} {run : Run} :
    LastSaved (saves ++ [last]) job run ↔ (job = last.1 ∧ run = last.2) ∨
      (LastSaved saves job run ∧ ¬ (job = last.1 ∧ run.uid = last.2.uid)) := by
  constructor
  · rintro ⟨earlier, later, same, newest⟩
    rcases List.eq_nil_or_concat' later with rfl | ⟨between, final, rfl⟩
    · rcases List.append_inj' same rfl with ⟨-, isLast⟩
      rw [List.singleton_inj.mp isLast]
      exact .inl ⟨rfl, rfl⟩
    · rw [← List.cons_append, ← List.append_assoc] at same
      rcases List.append_inj' same rfl with ⟨rfl, isLast⟩
      rw [List.singleton_inj.mp isLast]
      right
      refine ⟨⟨earlier, between, rfl, ?_⟩, ?_⟩
      · exact fun save member => newest save (List.mem_append_left _ member)
      · rintro ⟨rfl, uid⟩
        exact newest final (by simp) ⟨rfl, uid.symm⟩
  · rintro (⟨rfl, rfl⟩ | ⟨⟨earlier, later, rfl, newest⟩, different⟩)
    · exact ⟨saves, [], rfl, nofun⟩
    · refine ⟨earlier, later ++ [last], by simp, ?_⟩
      intro save member
      rcases List.mem_append.mp member with between | final
      · exact newest save between
      · rw [List.mem_singleton.mp final]
        rintro ⟨rfl, uid⟩
        exact different ⟨rfl, uid.symm⟩

theorem contentsOf_iff {run : Run} : contentsOf saves job run ↔ LastSaved saves job run := by
  induction saves using List.reverseRecOn with
  | nil =>
      constructor
      · nofun
      · rintro ⟨earlier, later, impossible, -⟩
        simp at impossible
  | append_singleton saves last induction =>
      rw [lastSaved_append_iff, contentsOf, List.foldl_append, ← induction]
      rfl

theorem Holds.saveEach {contents : Contents} (holds : store.Holds before contents)
    (readable : ∀ save ∈ saves, Readable save.2) (saved : store.saveEach saves before = .ok after) :
    store.Holds after
      (saves.foldl (fun contents save => contents.saving save.1 save.2) contents) := by
  induction saves generalizing before contents with
  | nil =>
      cases saved
      exact holds
  | cons save later induction =>
      rcases save with ⟨job, run⟩
      rw [RunStore.saveEach] at saved
      split at saved
      · next written path same =>
          rcases holds.save (readable _ List.mem_cons_self) same with ⟨-, holdsWritten⟩
          exact induction holdsWritten
            (fun save member => readable save (List.mem_cons_of_mem _ member)) saved
      · cases saved

/-- What is loaded for a job are the runs last saved for it, newest first. Only a run without
an identifier is lost: its file has no extension. And a job has to have a directory: at an empty
path there is none for the job without an identifier. -/
theorem loadRecent_of_saveEach (vacant : store.Vacant before)
    (saved : store.saveEach saves before = .ok after)
    (readable : ∀ save ∈ saves, Readable save.2) (job : String)
    (named : (store.jobDirectory job).text ≠ "") :
    ∃ ranked, Ranking ranked (fun run => LastSaved saves job run ∧ run.uid ≠ "") ∧
      ∀ limit, store.loadRecent job limit after = .ok (ranked.take limit) := by
  have holds := vacant.holds.saveEach readable saved
  rcases holds.exists_ranking named with ⟨ranked, ranking⟩
  refine ⟨ranked, ⟨fun run => ?_, ranking.sorted⟩, holds.loadRecent named ranking⟩
  rw [ranking.mem_iff, ← contentsOf_iff, contentsOf]

theorem readable_of_doubles {run : Run}
    (readsBack : ∀ double ∈ run.doubles, Json.ReadsBack double) :
    Readable run :=
  (run.readAs readsBack).2

def plainRun (uid : String) (startedAt : Option String) : Run where
  uid := uid
  status := .completed
  startedAt := startedAt
  finishedAt := none
  duration := none
  tasks := []

theorem readable_plainRun (uid : String) (startedAt : Option String) :
    Readable (plainRun uid startedAt) :=
  readable_of_doubles nofun

theorem vacant_empty : (RunStore.mk ⟨"runs"⟩).Vacant (.empty ["home"]) :=
  .inl (by decide +kernel)

/-- A run is saved again, and another one after it. -/
theorem loadRecent_of_saveEach_again :
    let saves := [("a/b", plainRun "1" none), ("a/b", plainRun "1" (some "2015")),
      ("a/b", plainRun "2" (some "2014"))]
    ∃ after, (RunStore.mk ⟨"runs"⟩).saveEach saves (.empty ["home"]) = .ok after ∧
      ∃ ranked, Ranking ranked (fun run => LastSaved saves "a/b" run ∧ run.uid ≠ "") ∧
        ∀ limit, (RunStore.mk ⟨"runs"⟩).loadRecent "a/b" limit after = .ok (ranked.take limit) := by
  intro saves
  have succeeds : ((RunStore.mk ⟨"runs"⟩).saveEach saves (.empty ["home"])).toBool = true := by
    decide +kernel
  cases saved : (RunStore.mk ⟨"runs"⟩).saveEach saves (.empty ["home"]) with
  | error trouble =>
      rw [saved] at succeeds
      cases succeeds
  | ok after =>
      refine ⟨after, rfl, loadRecent_of_saveEach vacant_empty saved ?_ "a/b"
        (text_jobDirectory_ne (by decide) "a/b")⟩
      intro save member
      simp only [saves, List.mem_cons, List.not_mem_nil, or_false] at member
      rcases member with rfl | rfl | rfl
      · exact readable_plainRun "1" none
      · exact readable_plainRun "1" (some "2015")
      · exact readable_plainRun "2" (some "2014")

/-- A run without an identifier is saved, and not loaded. -/
theorem saved_without_uid_not_loaded :
    let saves := [("job", plainRun "" none)]
    ∃ after, (RunStore.mk ⟨"runs"⟩).Vacant (.empty ["home"]) ∧
      (RunStore.mk ⟨"runs"⟩).saveEach saves (.empty ["home"]) = .ok after ∧
        Readable (plainRun "" none) ∧ LastSaved saves "job" (plainRun "" none) ∧
          (RunStore.mk ⟨"runs"⟩).loadRecent "job" 5 after = .ok [] := by
  intro saves
  have lost : ((RunStore.mk ⟨"runs"⟩).saveEach saves (.empty ["home"])).toOption.bind
      (fun after => ((RunStore.mk ⟨"runs"⟩).loadRecent "job" 5 after).toOption) = some [] := by
    decide +kernel
  rcases Option.bind_eq_some_iff.mp lost with ⟨after, saved, loaded⟩
  exact ⟨after, vacant_empty, toOption_eq_some_iff.mp saved, readable_plainRun "" none,
    ⟨[], [], rfl, nofun⟩, toOption_eq_some_iff.mp loaded⟩

end ExportWatch.RunStore

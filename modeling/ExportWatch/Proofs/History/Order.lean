import ExportWatch.History.Store
import Mathlib.Data.List.Sort
import Mathlib.Data.Prod.Lex
import Mathlib.Data.String.Basic
import Mathlib.Order.WithBot

/-! The order of saved runs: by the text of the start, a missing one below all others,
and then by identifier. The newest runs of a list can be found one run at a time. -/

namespace ExportWatch

namespace Run

def start (run : Run) : WithBot String :=
  match run.startedAt with
  | none => ⊥
  | some text => (text : WithBot String)

def rank (run : Run) : WithBot String ×ₗ String :=
  toLex (run.start, run.uid)

def Newer (first second : Run) : Prop :=
  second.rank < first.rank

def AtLeast (first second : Run) : Prop :=
  second.rank ≤ first.rank

theorem atLeast_total (first second : Run) : first.AtLeast second ∨ second.AtLeast first :=
  le_total second.rank first.rank

theorem atLeast_trans {first second third : Run} (newer : first.AtLeast second)
    (older : second.AtLeast third) : first.AtLeast third :=
  le_trans (a := third.rank) older newer

end Run

open Run

namespace RunStore

theorem textAtLeast_iff {first second : Run} :
    textAtLeast first.startedAt second.startedAt = true ↔ second.start ≤ first.start := by
  unfold Run.start
  cases first.startedAt with
  | none =>
      cases second.startedAt with
      | none => simp [textAtLeast]
      | some text => simp [textAtLeast]
  | some text =>
      cases second.startedAt with
      | none => simp [textAtLeast]
      | some other =>
          rw [textAtLeast, Bool.not_eq_true', decide_eq_false_iff_not, not_lt, WithBot.coe_le_coe]

theorem start_inj {first second : Run} :
    first.start = second.start ↔ first.startedAt = second.startedAt := by
  unfold Run.start
  cases first.startedAt <;> cases second.startedAt <;> simp

theorem comesFirst_iff {first second : Run} :
    comesFirst first second = true ↔ first.AtLeast second := by
  rw [AtLeast, rank, rank, Prod.Lex.toLex_le_toLex, comesFirst]
  by_cases same : first.startedAt = second.startedAt
  · have starts : second.start = first.start := start_inj.mpr same.symm
    rw [if_pos same, Bool.not_eq_true', decide_eq_false_iff_not, not_lt]
    simp [starts]
  · have starts : second.start ≠ first.start := fun equal => same (start_inj.mp equal).symm
    rw [if_neg same, textAtLeast_iff, le_iff_lt_or_eq]
    simp [starts]

theorem pairwise_mergeSort (saved : List SavedRun) :
    (saved.mergeSort fun first second => comesFirst first.run second.run).Pairwise
      fun first second => first.run.AtLeast second.run := by
  have sorted : (saved.mergeSort fun first second =>
      comesFirst first.run second.run).Pairwise fun first second =>
        comesFirst first.run second.run = true := by
    apply List.pairwise_mergeSort
    · intro first second third newer older
      exact comesFirst_iff.mpr
        (atLeast_trans (comesFirst_iff.mp newer) (comesFirst_iff.mp older))
    · intro first second
      rw [Bool.or_eq_true, comesFirst_iff, comesFirst_iff]
      exact atLeast_total first.run second.run
  exact sorted.imp comesFirst_iff.mp

end RunStore

theorem Run.uid_eq_of_rank_eq {first second : Run} (same : first.rank = second.rank) :
    first.uid = second.uid :=
  congrArg (fun rank => (ofLex rank).2) same

/-- Different identifiers mean different ranks. -/
theorem nodup_rank {runs : List Run} (distinct : (runs.map (·.uid)).Nodup) :
    (runs.map rank).Nodup :=
  List.pairwise_map.mpr ((List.pairwise_map.mp distinct).imp fun different same =>
    different (uid_eq_of_rank_eq same))

/-- Runs in their order, each of them once. -/
structure Ranking (runs : List Run) (among : Run → Prop) : Prop where
  mem_iff : ∀ run, run ∈ runs ↔ among run
  sorted : runs.Pairwise Newer

namespace Ranking

variable {runs others : List Run} {among : Run → Prop}

theorem of_sorted (members : ∀ run, run ∈ runs ↔ among run) (distinct : (runs.map rank).Nodup)
    (sorted : runs.Pairwise AtLeast) : Ranking runs among where
  mem_iff := members
  sorted := (sorted.and (List.pairwise_map.mp distinct)).imp fun both =>
    lt_of_le_of_ne both.1 both.2.symm

theorem distinct (ranking : Ranking runs among) : (runs.map rank).Nodup :=
  List.pairwise_map.mpr (ranking.sorted.imp fun newer => ne_of_gt newer)

theorem nodup (ranking : Ranking runs among) : runs.Nodup :=
  ranking.sorted.imp fun newer => by
    rintro rfl
    exact lt_irrefl _ newer

/-- Of the runs in their order some come first and the others are dropped. -/
theorem mem_take_iff (ranking : Ranking runs among) (count : Nat) (run : Run) :
    run ∈ runs.take count ↔ run ∈ runs ∧ run ∉ runs.drop count := by
  have parts := ranking.nodup
  rw [← List.take_append_drop count runs] at parts
  have apart := List.disjoint_of_nodup_append parts
  constructor
  · intro member
    exact ⟨List.mem_of_mem_take member, fun dropped => apart member dropped⟩
  · rintro ⟨member, notDropped⟩
    rw [← List.take_append_drop count runs, List.mem_append] at member
    exact member.resolve_right notDropped

theorem unique (first : Ranking runs among) (second : Ranking others among) : runs = others := by
  have same : runs.Perm others := by
    rw [List.perm_ext_iff_of_nodup first.nodup second.nodup]
    intro run
    rw [first.mem_iff, second.mem_iff]
  apply same.eq_of_pairwise _ first.sorted second.sorted
  intro one other _ _ newer older
  exact absurd newer (lt_asymm older)

end Ranking

/-! Runs that come one after the other. -/

section Insert

theorem take_orderedInsert {α : Type} (relation : α → α → Prop) [DecidableRel relation] (added : α)
    (count : Nat) (list : List α) :
    ((list.take count).orderedInsert relation added).take count =
      (list.orderedInsert relation added).take count := by
  induction list generalizing count with
  | nil => rw [List.take_nil]
  | cons head tail induction =>
      cases count with
      | zero => rfl
      | succ count =>
          rw [List.take_succ_cons, List.orderedInsert, List.orderedInsert]
          split
          · cases count with
            | zero => rfl
            | succ count => simp [List.take_take]
          · rw [List.take_succ_cons, List.take_succ_cons, induction]

instance : DecidableRel AtLeast := fun first second =>
  inferInstanceAs (Decidable (second.rank ≤ first.rank))

instance : Std.Total AtLeast where
  total := atLeast_total

instance : IsTrans Run AtLeast where
  trans _ _ _ := atLeast_trans

theorem Ranking.orderedInsert {runs : List Run} {among : Run → Prop} {added : Run}
    (ranking : Ranking runs among) (new : ∀ run, among run → run.uid ≠ added.uid) :
    Ranking (runs.orderedInsert AtLeast added) fun run => run = added ∨ among run := by
  have apart : added.rank ∉ runs.map rank := by
    intro member
    rcases List.mem_map.mp member with ⟨run, inside, same⟩
    exact new run ((ranking.mem_iff run).mp inside) (uid_eq_of_rank_eq same)
  apply of_sorted
  · intro run
    rw [List.mem_orderedInsert, ranking.mem_iff]
  · have shuffled := (List.perm_orderedInsert AtLeast added runs).map rank
    rw [shuffled.nodup_iff]
    exact List.nodup_cons.mpr ⟨apart, ranking.distinct⟩
  · exact (ranking.sorted.imp le_of_lt).orderedInsert added runs

theorem Ranking.take {runs : List Run} {among : Run → Prop} (ranking : Ranking runs among)
    (count : Nat) : Ranking (runs.take count) (· ∈ runs.take count) :=
  ⟨fun _ => Iff.rfl, ranking.sorted.take⟩

end Insert

end ExportWatch

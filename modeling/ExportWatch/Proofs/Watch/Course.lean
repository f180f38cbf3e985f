import ExportWatch.Watch.Poller
import Mathlib.Data.List.Induction
import Mathlib.Data.Nat.Basic
import Mathlib.Order.Basic

/-! The course of a poller: what one operation can do, and what a list of
operations leads to. -/

namespace ExportWatch

namespace Session

theorem isStale_eq_false_iff {session : Session} {number : Nat} :
    session.isStale number = false ↔
      session.firstFetch ≤ number ∧ ∀ applied ∈ session.lastApplied, applied < number := by
  cases lastApplied : session.lastApplied <;> simp [isStale, lastApplied]

theorem isStale_of_le {session : Session} {smaller larger : Nat} (le : smaller ≤ larger)
    (stale : session.isStale larger = true) : session.isStale smaller = true := by
  by_contra fresh
  have parts := isStale_eq_false_iff.mp (by simpa using fresh)
  have largerFresh : session.isStale larger = false :=
    isStale_eq_false_iff.mpr ⟨parts.1.trans le,
      fun applied member => (parts.2 applied member).trans_le le⟩
  simp [largerFresh] at stale

/-- The same session, perhaps with another answer applied. -/
structure Continues (session later : Session) : Prop where
  job : later.job = session.job
  timer : later.timer = session.timer
  firstFetch : later.firstFetch = session.firstFetch

theorem Continues.refl (session : Session) : session.Continues session :=
  ⟨rfl, rfl, rfl⟩

theorem Continues.trans {first second third : Session} (head : first.Continues second)
    (tail : second.Continues third) : first.Continues third :=
  ⟨tail.job.trans head.job, tail.timer.trans head.timer, tail.firstFetch.trans head.firstFetch⟩

end Session

namespace Poller

theorem session?_eq_some_iff {poller : Poller} {session : Session} :
    poller.session? = some session ↔ poller.phase = .polling session := by
  cases phase : poller.phase <;> simp [session?, phase]

theorem session?_eq_none_iff {poller : Poller} :
    poller.session? = none ↔ ∀ session, poller.phase ≠ .polling session := by
  simp [Option.eq_none_iff_forall_ne_some, session?_eq_some_iff]

theorem activeTimer_eq_some_iff {poller : Poller} {timer : Nat} :
    poller.activeTimer = some timer ↔
      ∃ session, poller.phase = .polling session ∧ session.timer = timer := by
  simp [activeTimer, session?_eq_some_iff]

/-! An answer that is not stale is reported, or it ends the polling. -/

inductive Reports : Except String (List Run) → Effect → Prop
  | failure (message : String) : Reports (.error message) (.fetchFailed message)
  | progress (newest : Run) (others : List Run) :
      newest.isTerminal = false → Reports (.ok (newest :: others)) (.update newest)

inductive Ends {Failure : Type} : Except Failure (List Run) → StopReason → Prop
  | empty : Ends (.ok []) .noRuns
  | terminal (newest : Run) (others : List Run) :
      newest.isTerminal = true → Ends (.ok (newest :: others)) (.terminal newest.status)

theorem Ends.not_cancelled {Failure : Type} {outcome : Except Failure (List Run)}
    {reason : StopReason} (ends : Ends outcome reason) : reason ≠ .cancelled := by
  cases ends <;> simp

/-- The job that an operation wants to be polled, and why. -/
def Operation.opens? : Operation → Option (String × StartReason)
  | .start job reason => some (job, reason)
  | .observe job runs =>
      if runs.head?.any (!·.isTerminal) then some (job, .observed) else none
  | _ => none

/-- The operations that change nothing. -/
def ignores (poller : Poller) : Operation → Bool
  | .start job _ => poller.isPolling job
  | .observe job runs => runs.head?.all (·.isTerminal) || poller.isPolling job
  | .tick timer => poller.activeTimer != some timer
  | .answer number _ => poller.session?.all (·.isStale number)
  | .cancel => false

/-- All that an operation can do, with the new state and the effects. -/
inductive Move (poller : Poller) : Operation → Poller → List Effect → Prop
  | ignored {operation : Operation} :
      poller.ignores operation = true → Move poller operation poller []
  | settled :
      poller.session? = none → Move poller .cancel { poller with phase := .stopped } []
  | opened {operation : Operation} {job : String} {reason : StartReason} :
      operation.opens? = some (job, reason) → poller.isPolling job = false →
      Move poller operation (poller.openSession job)
        (poller.cancelTimers ++ [.schedule (poller.lastTimer + 1) job
          (poller.startDelay reason) poller.timing.interval])
  | asked {session : Session} :
      poller.phase = .polling session →
      Move poller (.tick session.timer) { poller with lastFetch := poller.lastFetch + 1 }
        [.fetch session.job (poller.lastFetch + 1)]
  | reported {session : Session} {number : Nat} {outcome : Except String (List Run)}
      {report : Effect} :
      poller.phase = .polling session → session.isStale number = false →
      Reports outcome report →
      Move poller (.answer number outcome)
        { poller with phase := .polling { session with lastApplied := some number } } [report]
  | finished {session : Session} {number : Nat} {outcome : Except String (List Run)}
      {reason : StopReason} :
      poller.phase = .polling session → session.isStale number = false →
      Ends outcome reason →
      Move poller (.answer number outcome) { poller with phase := .stopped }
        [.cancelTimer session.timer, .stopped session.job reason, .refreshCompleted session.job]
  | cancelled {session : Session} :
      poller.phase = .polling session →
      Move poller .cancel { poller with phase := .stopped }
        [.cancelTimer session.timer, .stopped session.job .cancelled]

private theorem start_moves (poller : Poller) {operation : Operation} {job : String}
    {reason : StartReason} (opens : operation.opens? = some (job, reason))
    (ignored : poller.isPolling job = true → poller.ignores operation = true) :
    Move poller operation (poller.start job reason).1 (poller.start job reason).2 := by
  by_cases polling : poller.isPolling job = true
  · rw [start, if_pos polling]
    exact .ignored (ignored polling)
  · rw [start, if_neg polling]
    exact .opened opens (by simpa using polling)

private theorem observe_moves (poller : Poller) (job : String) (runs : List Run) :
    Move poller (.observe job runs) (poller.observe job runs).1 (poller.observe job runs).2 := by
  cases runs with
  | nil => exact .ignored rfl
  | cons newest others =>
      by_cases terminal : newest.isTerminal = true
      · have ignored : poller.ignores (.observe job (newest :: others)) = true := by
          simp [ignores, terminal]
        simpa [observe, terminal] using Move.ignored ignored
      · have running : newest.isTerminal = false := by simpa using terminal
        simp only [observe, running]
        apply start_moves
        · simp [Operation.opens?, running]
        · intro polling
          simp [ignores, polling]

private theorem tick_moves (poller : Poller) (timer : Nat) :
    Move poller (.tick timer) (poller.tick timer).1 (poller.tick timer).2 := by
  unfold tick
  split
  · rename_i session polling
    by_cases same : session.timer = timer
    · subst same
      simpa using Move.asked polling
    · have ignored : poller.ignores (.tick timer) = true := by
        simp [ignores, activeTimer, session?, polling, same]
      simpa [same] using Move.ignored ignored
  · rename_i notPolling
    have none := session?_eq_none_iff.mpr notPolling
    exact .ignored (by simp [ignores, activeTimer, none])

private theorem answer_moves (poller : Poller) (number : Nat)
    (outcome : Except String (List Run)) :
    Move poller (.answer number outcome) (poller.answer number outcome).1
      (poller.answer number outcome).2 := by
  unfold answer
  split
  · rename_i session polling
    cases stale : session.isStale number with
    | true => exact .ignored (by simp [ignores, session?, polling, stale])
    | false =>
        match outcome with
        | .error message => exact .reported polling stale (.failure message)
        | .ok [] => exact .finished polling stale .empty
        | .ok (newest :: others) =>
            cases terminal : newest.isTerminal with
            | true =>
                simpa [apply, stopFor, terminal] using
                  Move.finished polling stale (.terminal newest others terminal)
            | false =>
                simpa [apply, terminal] using
                  Move.reported polling stale (.progress newest others terminal)
  · rename_i notPolling
    have none := session?_eq_none_iff.mpr notPolling
    exact .ignored (by simp [ignores, none])

private theorem cancel_moves (poller : Poller) :
    Move poller .cancel poller.cancel.1 poller.cancel.2 := by
  unfold cancel
  cases phase : poller.phase with
  | polling session => exact .cancelled phase
  | idle => exact .settled (by simp [session?, phase])
  | stopped => exact .settled (by simp [session?, phase])

theorem step_moves (poller : Poller) (operation : Operation) :
    Move poller operation (poller.step operation).1 (poller.step operation).2 := by
  cases operation with
  | start job reason => exact start_moves poller rfl id
  | observe job runs => exact observe_moves poller job runs
  | tick timer => exact tick_moves poller timer
  | answer number outcome => exact answer_moves poller number outcome
  | cancel => exact cancel_moves poller

/-! Lists of operations. -/

def after (poller : Poller) (operations : List Operation) : Poller :=
  operations.foldl (fun reached operation => (reached.step operation).1) poller

def effects (poller : Poller) (operations : List Operation) : List Effect :=
  (poller.history operations).flatMap Prod.snd

@[simp] theorem after_nil (poller : Poller) : poller.after [] = poller :=
  rfl

@[simp] theorem effects_nil (poller : Poller) : poller.effects [] = [] :=
  rfl

theorem effects_cons (poller : Poller) (head : Operation) (tail : List Operation) :
    poller.effects (head :: tail) = (poller.step head).2 ++ (poller.step head).1.effects tail :=
  rfl

theorem after_append (poller : Poller) (first second : List Operation) :
    poller.after (first ++ second) = (poller.after first).after second :=
  List.foldl_append

theorem history_append (poller : Poller) (first second : List Operation) :
    poller.history (first ++ second) =
      poller.history first ++ (poller.after first).history second := by
  induction first generalizing poller with
  | nil => rfl
  | cons head tail induction =>
      simp only [List.cons_append, history, induction]
      rfl

theorem effects_append (poller : Poller) (first second : List Operation) :
    poller.effects (first ++ second) =
      poller.effects first ++ (poller.after first).effects second := by
  simp [effects, history_append]

@[simp] theorem after_concat (poller : Poller) (operations : List Operation)
    (last : Operation) :
    poller.after (operations ++ [last]) = ((poller.after operations).step last).1 :=
  after_append poller operations [last]

@[simp] theorem effects_concat (poller : Poller) (operations : List Operation)
    (last : Operation) :
    poller.effects (operations ++ [last]) =
      poller.effects operations ++ ((poller.after operations).step last).2 := by
  rw [effects_append]
  simp [effects, history]

theorem step_numbers (poller : Poller) (operation : Operation) :
    (poller.step operation).1.lastTimer ≤ poller.lastTimer + 1 ∧
      (poller.step operation).1.lastFetch ≤ poller.lastFetch + 1 := by
  have move := step_moves poller operation
  generalize poller.step operation = stepped at move
  rcases stepped with ⟨next, effects⟩
  cases move <;> simp

/-- An operation gives out at most one number of either kind, so that a 64-bit word
holds all numbers of fewer than `2 ^ 64` operations. -/
theorem after_numbers_le (timing : PollTiming) (operations : List Operation) :
    ((new timing).after operations).lastTimer ≤ operations.length ∧
      ((new timing).after operations).lastFetch ≤ operations.length := by
  induction operations using List.reverseRecOn with
  | nil => exact ⟨Nat.le_refl 0, Nat.le_refl 0⟩
  | append_singleton operations last induction =>
      have numbers := step_numbers ((new timing).after operations) last
      rw [after_concat, List.length_append, List.length_singleton]
      omega

section Step

variable {poller : Poller} {operation : Operation} {operations : List Operation}

/-! The session after an operation is a new one, or the one before it. -/

structure Begins (session : Session) (poller next : Poller) : Prop where
  firstFetch : session.firstFetch = poller.lastFetch + 1
  timer : session.timer = poller.lastTimer + 1
  lastTimer : next.lastTimer = poller.lastTimer + 1
  lastApplied : session.lastApplied = none

theorem session_of_step {session : Session}
    (polling : (poller.step operation).1.phase = .polling session) :
    Begins session poller (poller.step operation).1 ∨
      ∃ before, poller.phase = .polling before ∧ before.Continues session ∧
        (session.lastApplied = before.lastApplied ∨
          ∃ number outcome, operation = .answer number outcome ∧
            before.isStale number = false ∧ session.lastApplied = some number) := by
  have move := step_moves poller operation
  generalize poller.step operation = stepped at move polling
  rcases stepped with ⟨next, effects⟩
  cases move with
  | ignored _ => exact .inr ⟨session, polling, .refl session, .inl rfl⟩
  | settled _ => cases polling
  | opened _ _ =>
      cases polling
      exact .inl ⟨rfl, rfl, rfl, rfl⟩
  | asked _ => exact .inr ⟨session, polling, .refl session, .inl rfl⟩
  | reported before fresh _ =>
      cases polling
      exact .inr ⟨_, before, ⟨rfl, rfl, rfl⟩, .inr ⟨_, _, rfl, fresh, rfl⟩⟩
  | finished _ _ _ => cases polling
  | cancelled _ => cases polling

/-! Fetches are numbered upwards. -/

theorem fetch_of_step {job : String} {number : Nat}
    (fetched : .fetch job number ∈ (poller.step operation).2) :
    (∃ session, poller.phase = .polling session ∧ session.job = job) ∧
      number = poller.lastFetch + 1 ∧
      (poller.step operation).1 = { poller with lastFetch := number } := by
  have move := step_moves poller operation
  generalize poller.step operation = stepped at move fetched
  rcases stepped with ⟨next, effects⟩
  cases move with
  | ignored _ => cases fetched
  | settled _ => cases fetched
  | opened _ _ => simp [cancelTimers] at fetched
  | asked polling =>
      rcases List.mem_singleton.mp fetched with ⟨rfl, rfl⟩
      exact ⟨⟨_, polling, rfl⟩, rfl, rfl⟩
  | reported _ _ reports => cases reports <;> simp at fetched
  | finished _ _ _ => simp at fetched
  | cancelled _ => simp at fetched

theorem lastFetch_le_step (poller : Poller) (operation : Operation) :
    poller.lastFetch ≤ (poller.step operation).1.lastFetch := by
  have move := step_moves poller operation
  generalize poller.step operation = stepped at move
  rcases stepped with ⟨next, effects⟩
  cases move <;> simp

theorem lastTimer_le_step (poller : Poller) (operation : Operation) :
    poller.lastTimer ≤ (poller.step operation).1.lastTimer := by
  have move := step_moves poller operation
  generalize poller.step operation = stepped at move
  rcases stepped with ⟨next, effects⟩
  cases move <;> simp

theorem lastFetch_le_after (poller : Poller) (operations : List Operation) :
    poller.lastFetch ≤ (poller.after operations).lastFetch := by
  induction operations using List.reverseRecOn with
  | nil => exact Nat.le_refl _
  | append_singleton operations last induction =>
      rw [after_concat]
      exact induction.trans (lastFetch_le_step _ last)

theorem fetch_le_lastFetch {job : String} {number : Nat}
    (fetched : .fetch job number ∈ poller.effects operations) :
    number ≤ (poller.after operations).lastFetch := by
  induction operations using List.reverseRecOn with
  | nil => cases fetched
  | append_singleton operations last induction =>
      rw [effects_concat] at fetched
      rw [after_concat]
      rcases List.mem_append.mp fetched with earlier | now
      · exact (induction earlier).trans (lastFetch_le_step _ last)
      · exact Nat.le_of_eq (by rw [(fetch_of_step now).2.2])

theorem lastFetch_of_step (noFetch : ∀ job number, .fetch job number ∉ (poller.step operation).2) :
    (poller.step operation).1.lastFetch = poller.lastFetch := by
  have move := step_moves poller operation
  generalize poller.step operation = stepped at move noFetch
  rcases stepped with ⟨next, effects⟩
  cases move with
  | asked _ => exact absurd (List.mem_singleton_self _) (noFetch _ _)
  | _ => rfl

/-! The numbers of a session have been given out. -/

theorem numbers_of_session_step {session : Session}
    (given : ∀ before, poller.phase = .polling before →
      before.timer ≤ poller.lastTimer ∧ before.firstFetch ≤ poller.lastFetch + 1)
    (polling : (poller.step operation).1.phase = .polling session) :
    session.timer ≤ (poller.step operation).1.lastTimer ∧
      session.firstFetch ≤ (poller.step operation).1.lastFetch + 1 := by
  have timers := lastTimer_le_step poller operation
  have fetches := lastFetch_le_step poller operation
  rcases session_of_step polling with begins | ⟨before, beforePolling, continues, -⟩
  · have timer := begins.timer
    have lastTimer := begins.lastTimer
    have firstFetch := begins.firstFetch
    omega
  · rcases given before beforePolling with ⟨timer, firstFetch⟩
    rw [continues.timer, continues.firstFetch]
    omega

theorem numbers_of_session {timing : PollTiming} {session : Session}
    (polling : ((new timing).after operations).phase = .polling session) :
    session.timer ≤ ((new timing).after operations).lastTimer ∧
      session.firstFetch ≤ ((new timing).after operations).lastFetch + 1 := by
  induction operations using List.reverseRecOn generalizing session with
  | nil => cases polling
  | append_singleton operations last induction =>
      rw [after_concat] at polling ⊢
      exact numbers_of_session_step (fun before beforePolling => induction beforePolling) polling

/-! A session that began before a moment has been there ever since. -/

theorem begun_or_continues {session : Session}
    (polling : (poller.after operations).phase = .polling session) :
    (poller.lastTimer < session.timer ∧ poller.lastFetch < session.firstFetch) ∨
      ∃ before, poller.phase = .polling before ∧ before.Continues session := by
  induction operations generalizing poller with
  | nil => exact .inr ⟨session, polling, .refl session⟩
  | cons head tail induction =>
      rcases induction polling with ⟨timer, firstFetch⟩ | ⟨next, nextPolling, continues⟩
      · left
        exact ⟨(lastTimer_le_step poller head).trans_lt timer,
          (lastFetch_le_step poller head).trans_lt firstFetch⟩
      · rcases session_of_step nextPolling with begins | ⟨before, beforePolling, same, -⟩
        · left
          rw [continues.timer, continues.firstFetch, begins.timer, begins.firstFetch]
          exact ⟨Nat.lt_succ_self _, Nat.lt_succ_self _⟩
        · exact .inr ⟨before, beforePolling, same.trans continues⟩

theorem polling_since {session : Session}
    (polling : (poller.after operations).phase = .polling session)
    (begun : session.firstFetch ≤ poller.lastFetch) :
    ∃ before, poller.phase = .polling before ∧ before.Continues session := by
  rcases begun_or_continues polling with later | since
  · omega
  · exact since

end Step

end Poller

end ExportWatch

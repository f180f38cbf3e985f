import ExportWatch.Proofs.Watch.Course

/-! A poller with registers for its session. When the session is over the registers keep what they
hold, and the numbers go on. Neither is seen from outside: the effects are those of a poller without
such a past, with its numbers put behind the ones that were given out before. -/

namespace ExportWatch

/-- How many timers and how many fetches had a number before. -/
structure Offset where
  timers : Nat
  fetches : Nat
  deriving DecidableEq, Repr

def Effect.behind (offset : Offset) : Effect → Effect
  | .schedule timer job delay period => .schedule (offset.timers + timer) job delay period
  | .cancelTimer timer => .cancelTimer (offset.timers + timer)
  | .fetch job number => .fetch job (offset.fetches + number)
  | effect => effect

/-- Numbers are counted from the offset on. A number that was given out before becomes 0, which is
not the number of any timer or fetch. -/
def Poller.Operation.since (offset : Offset) : Poller.Operation → Poller.Operation
  | .tick timer => .tick (timer - offset.timers)
  | .answer number outcome => .answer (number - offset.fetches) outcome
  | operation => operation

inductive Mode where
  | idle
  | polling
  | stopped
  deriving DecidableEq, Repr

structure Registers where
  timing : PollTiming
  mode : Mode
  job : Option String
  timer : Option Nat
  lastTimer : Nat
  lastFetch : Nat
  firstFetch : Nat
  lastApplied : Option Nat
  deriving DecidableEq, Repr

namespace Registers

def new (timing : PollTiming) : Registers where
  timing := { timing with interval := Poller.period timing }
  mode := .idle
  job := none
  timer := none
  lastTimer := 0
  lastFetch := 0
  firstFetch := 1
  lastApplied := none

def cancelTimers (registers : Registers) : List Effect :=
  registers.timer.toList.map .cancelTimer

def startDelay (registers : Registers) : StartReason → Span
  | .observed => registers.timing.interval
  | .rerun => registers.timing.startupDelay

def start (registers : Registers) (job : String) (reason : StartReason) :
    Registers × List Effect :=
  if registers.mode = .polling ∧ registers.job = some job then (registers, [])
  else
    ({ registers with
        mode := .polling
        job := some job
        timer := some (registers.lastTimer + 1)
        lastTimer := registers.lastTimer + 1
        firstFetch := registers.lastFetch + 1
        lastApplied := none },
      registers.cancelTimers ++
        [.schedule (registers.lastTimer + 1) job (registers.startDelay reason)
          registers.timing.interval])

def observe (registers : Registers) (job : String) (runs : List Run) : Registers × List Effect :=
  match runs with
  | newest :: _ => if newest.isTerminal then (registers, []) else registers.start job .observed
  | [] => (registers, [])

def tick (registers : Registers) (timer : Nat) : Registers × List Effect :=
  if registers.mode = .polling ∧ registers.timer = some timer then
    match registers.job with
    | some job =>
        ({ registers with lastFetch := registers.lastFetch + 1 },
          [.fetch job (registers.lastFetch + 1)])
    | none => (registers, [])
  else (registers, [])

def isStale (registers : Registers) (number : Nat) : Bool :=
  number < registers.firstFetch || registers.lastApplied.any (number ≤ ·)

def stopFor (registers : Registers) (reason : StopReason) : Registers × List Effect :=
  let job := registers.job.getD ""
  ({ registers with mode := .stopped, timer := none },
    registers.cancelTimers ++ [.stopped job reason, .refreshCompleted job])

def apply (registers : Registers) (outcome : Except String (List Run)) : Registers × List Effect :=
  match outcome with
  | .error message => (registers, [.fetchFailed message])
  | .ok [] => registers.stopFor .noRuns
  | .ok (newest :: _) =>
      if newest.isTerminal then registers.stopFor (.terminal newest.status)
      else (registers, [.update newest])

def answer (registers : Registers) (number : Nat) (outcome : Except String (List Run)) :
    Registers × List Effect :=
  if registers.mode = .polling ∧ registers.isStale number = false then
    { registers with lastApplied := some number }.apply outcome
  else (registers, [])

def cancel (registers : Registers) : Registers × List Effect :=
  ({ registers with mode := .stopped, timer := none },
    registers.cancelTimers ++
      if registers.mode = .polling then registers.job.toList.map (.stopped · .cancelled) else [])

def step (registers : Registers) : Poller.Operation → Registers × List Effect
  | .start job reason => registers.start job reason
  | .observe job runs => registers.observe job runs
  | .tick timer => registers.tick timer
  | .answer number outcome => registers.answer number outcome
  | .cancel => registers.cancel

/-- The effects of each operation. -/
def history (registers : Registers) : List Poller.Operation → List (List Effect)
  | [] => []
  | head :: tail =>
      let stepped := registers.step head
      stepped.2 :: history stepped.1 tail

end Registers

namespace Poller

/-! A poller without a session ignores ticks and answers. -/

variable {poller : Poller}

theorem tick_of_resting (resting : poller.session? = none) (timer : Nat) :
    poller.tick timer = (poller, []) := by
  unfold tick
  split
  · next session polling => exact absurd polling (session?_eq_none_iff.mp resting session)
  · rfl

theorem answer_of_resting (resting : poller.session? = none) (number : Nat)
    (outcome : Except String (List Run)) : poller.answer number outcome = (poller, []) := by
  unfold answer
  split
  · next session polling => exact absurd polling (session?_eq_none_iff.mp resting session)
  · rfl

theorem cancel_of_resting (resting : poller.session? = none) :
    poller.cancel = ({ poller with phase := .stopped }, []) := by
  unfold cancel
  split
  · next session polling => exact absurd polling (session?_eq_none_iff.mp resting session)
  · rfl

end Poller

namespace Registers

variable {offset : Offset} {poller : Poller} {registers : Registers} {session : Session}

/-- The registers while a session goes on, and the session with its numbers behind the offset. -/
structure Holds (offset : Offset) (session : Session) (registers : Registers) : Prop where
  mode : registers.mode = .polling
  job : registers.job = some session.job
  timer : registers.timer = some (offset.timers + session.timer)
  firstFetch : registers.firstFetch = offset.fetches + session.firstFetch
  lastApplied : registers.lastApplied = session.lastApplied.map (offset.fetches + ·)
  numbered : 0 < session.timer ∧ 0 < session.firstFetch

/-- Nothing is said of the job and the answers of a session that is over. -/
structure Rests (registers : Registers) : Prop where
  mode : registers.mode ≠ .polling
  timer : registers.timer = none

/-- The registers of a poller that does not poll. Those that it does not name hold anything. -/
structure LeftBy (poller : Poller) (registers : Registers) : Prop extends Rests registers where
  timing : registers.timing = poller.timing
  lastTimer : registers.lastTimer = poller.lastTimer
  lastFetch : registers.lastFetch = poller.lastFetch

def Mirrors (offset : Offset) : Option Session → Registers → Prop
  | some session, registers => registers.Holds offset session
  | none, registers => registers.Rests

structure Follows (offset : Offset) (poller : Poller) (registers : Registers) : Prop where
  timing : registers.timing = poller.timing
  lastTimer : registers.lastTimer = offset.timers + poller.lastTimer
  lastFetch : registers.lastFetch = offset.fetches + poller.lastFetch
  session : Mirrors offset poller.session? registers

/-- A step of the registers and a step of the poller that goes along with it. -/
def Together (offset : Offset) (left : Registers × List Effect) (right : Poller × List Effect) :
    Prop :=
  Follows offset right.1 left.1 ∧ left.2 = right.2.map (Effect.behind offset)

theorem follows_new (timing : PollTiming) : Follows ⟨0, 0⟩ (.new timing) (.new timing) where
  timing := rfl
  lastTimer := rfl
  lastFetch := rfl
  session := ⟨nofun, rfl⟩

theorem Follows.still (follows : Follows offset poller registers) :
    Together offset (registers, []) (poller, []) :=
  ⟨follows, rfl⟩

theorem Follows.cases (follows : Follows offset poller registers) :
    (∃ session, poller.phase = .polling session ∧ registers.Holds offset session) ∨
      poller.session? = none ∧ registers.Rests := by
  have mirrors := follows.session
  cases current : poller.session? with
  | none =>
      rw [current] at mirrors
      exact .inr ⟨rfl, mirrors⟩
  | some session =>
      rw [current] at mirrors
      exact .inl ⟨session, Poller.session?_eq_some_iff.mp current, mirrors⟩

/-! Each operation. -/

theorem Follows.cancelTimers_eq (follows : Follows offset poller registers) :
    registers.cancelTimers = poller.cancelTimers.map (Effect.behind offset) := by
  rcases follows.cases with ⟨session, polling, holds⟩ | ⟨resting, rests⟩
  · simp [cancelTimers, Poller.cancelTimers, Poller.activeTimer, Poller.session?, polling,
      holds.timer, Effect.behind]
  · simp [cancelTimers, Poller.cancelTimers, Poller.activeTimer, resting, rests.timer]

theorem Follows.polls_iff (follows : Follows offset poller registers) (job : String) :
    registers.mode = .polling ∧ registers.job = some job ↔ poller.isPolling job = true := by
  rcases follows.cases with ⟨session, polling, holds⟩ | ⟨resting, rests⟩
  · simp [Poller.isPolling, Poller.session?, polling, holds.mode, holds.job]
  · simp [Poller.isPolling, resting, rests.mode]

theorem Follows.startDelay_eq (follows : Follows offset poller registers) (reason : StartReason) :
    registers.startDelay reason = poller.startDelay reason := by
  cases reason <;> simp [startDelay, Poller.startDelay, follows.timing]

theorem Follows.start (follows : Follows offset poller registers) (job : String)
    (reason : StartReason) :
    Together offset (registers.start job reason) (poller.start job reason) := by
  rw [Registers.start, Poller.start]
  by_cases polls : poller.isPolling job = true
  · rw [if_pos polls, if_pos ((follows.polls_iff job).mpr polls)]
    exact follows.still
  · rw [if_neg polls, if_neg (mt (follows.polls_iff job).mp polls)]
    have timer := follows.lastTimer
    have fetch := follows.lastFetch
    refine ⟨⟨follows.timing, ?_, fetch, ⟨rfl, rfl, ?_, ?_, rfl, ?_⟩⟩, ?_⟩
    · simp only [Poller.openSession]
      omega
    · simp only [Option.some.injEq]
      omega
    · simp only
      omega
    · exact ⟨Nat.succ_pos _, Nat.succ_pos _⟩
    · rw [List.map_append, follows.cancelTimers_eq, follows.startDelay_eq, follows.timing, timer]
      rfl

theorem Follows.observe (follows : Follows offset poller registers) (job : String)
    (runs : List Run) : Together offset (registers.observe job runs) (poller.observe job runs) := by
  cases runs with
  | nil => exact follows.still
  | cons newest others =>
      rw [Registers.observe, Poller.observe]
      cases newest.isTerminal with
      | true => exact follows.still
      | false => exact follows.start job .observed

theorem Holds.timer_iff (holds : registers.Holds offset session) (timer : Nat) :
    registers.mode = .polling ∧ registers.timer = some timer ↔
      session.timer = timer - offset.timers := by
  have numbered := holds.numbered.1
  rw [holds.timer, Option.some.injEq]
  constructor
  · rintro ⟨-, equal⟩
    omega
  · intro equal
    exact ⟨holds.mode, by omega⟩

theorem Follows.tick (follows : Follows offset poller registers) (timer : Nat) :
    Together offset (registers.tick timer) (poller.tick (timer - offset.timers)) := by
  rcases follows.cases with ⟨session, polling, holds⟩ | ⟨resting, rests⟩
  · rw [Registers.tick, Poller.tick, polling]
    by_cases active : session.timer = timer - offset.timers
    · have fetch := follows.lastFetch
      simp only [if_pos ((holds.timer_iff timer).mpr active), if_pos active, holds.job]
      refine ⟨⟨follows.timing, follows.lastTimer, ?_, ?_⟩, ?_⟩
      · simp only
        omega
      · exact ⟨holds.mode, rfl, holds.timer, holds.firstFetch, holds.lastApplied, holds.numbered⟩
      · simp [Effect.behind, fetch, Nat.add_assoc]
    · simp only [if_neg (mt (holds.timer_iff timer).mp active), if_neg active]
      exact follows.still
  · rw [Registers.tick, if_neg fun both => rests.mode both.1, Poller.tick_of_resting resting]
    exact follows.still

/-- Stale numbers stay stale. A number from before the offset is stale for every session. -/
theorem Holds.isStale_eq (holds : registers.Holds offset session) (number : Nat) :
    registers.isStale number = session.isStale (number - offset.fetches) := by
  have numbered := holds.numbered.2
  rw [Bool.eq_iff_iff, ← not_iff_not, Bool.not_eq_true, Bool.not_eq_true,
    Session.isStale_eq_false_iff]
  simp only [Registers.isStale, holds.firstFetch, holds.lastApplied]
  cases session.lastApplied with
  | none =>
      simp
      omega
  | some applied =>
      simp
      omega

theorem Follows.stopFor (follows : Follows offset poller registers)
    (timer : registers.timer = some (offset.timers + session.timer))
    (job : registers.job = some session.job) (reason : StopReason) :
    Together offset (registers.stopFor reason) (poller.stopFor session reason) := by
  refine ⟨⟨follows.timing, follows.lastTimer, follows.lastFetch, ⟨nofun, rfl⟩⟩, ?_⟩
  simp [Registers.stopFor, Poller.stopFor, cancelTimers, timer, job, Effect.behind]

theorem Follows.apply (follows : Follows offset poller registers)
    (timer : registers.timer = some (offset.timers + session.timer))
    (job : registers.job = some session.job) (outcome : Except String (List Run)) :
    Together offset (registers.apply outcome) (poller.apply session outcome) := by
  cases outcome with
  | error message => exact ⟨follows, rfl⟩
  | ok runs =>
      cases runs with
      | nil => exact follows.stopFor timer job .noRuns
      | cons newest others =>
          rw [Registers.apply, Poller.apply]
          cases newest.isTerminal with
          | true => exact follows.stopFor timer job (.terminal newest.status)
          | false => exact ⟨follows, rfl⟩

theorem Follows.answer (follows : Follows offset poller registers) (number : Nat)
    (outcome : Except String (List Run)) :
    Together offset (registers.answer number outcome)
      (poller.answer (number - offset.fetches) outcome) := by
  rcases follows.cases with ⟨session, polling, holds⟩ | ⟨resting, rests⟩
  · have stale := holds.isStale_eq number
    rw [Registers.answer, Poller.answer, polling]
    cases fresh : session.isStale (number - offset.fetches) with
    | true =>
        rw [if_neg fun both => by simp [stale, fresh] at both]
        simp only [fresh, if_true]
        exact follows.still
    | false =>
        -- A number that is not stale belongs to the session, so it lies behind the offset.
        have begun := (Session.isStale_eq_false_iff.mp fresh).1
        have numbered := holds.numbered.2
        have number_eq : number = offset.fetches + (number - offset.fetches) := by omega
        rw [if_pos ⟨holds.mode, stale.trans fresh⟩]
        have applied : Follows offset
            { poller with phase := .polling { session with
                lastApplied := some (number - offset.fetches) } }
            { registers with lastApplied := some number } :=
          ⟨follows.timing, follows.lastTimer, follows.lastFetch, holds.mode, holds.job,
            holds.timer, holds.firstFetch, congrArg some number_eq, holds.numbered⟩
        simp only [fresh, Bool.false_eq_true, if_false]
        exact applied.apply holds.timer holds.job outcome
  · rw [Registers.answer, if_neg fun both => rests.mode both.1, Poller.answer_of_resting resting]
    exact follows.still

theorem Follows.cancel (follows : Follows offset poller registers) :
    Together offset registers.cancel poller.cancel := by
  have halted : Follows offset { poller with phase := .stopped }
      { registers with mode := .stopped, timer := none } :=
    ⟨follows.timing, follows.lastTimer, follows.lastFetch, ⟨nofun, rfl⟩⟩
  rcases follows.cases with ⟨session, polling, holds⟩ | ⟨resting, rests⟩
  · refine ⟨?_, ?_⟩
    · simpa [Registers.cancel, Poller.cancel, polling] using halted
    · simp [Registers.cancel, Poller.cancel, polling, cancelTimers, holds.mode, holds.timer,
        holds.job, Effect.behind]
  · rw [Poller.cancel_of_resting resting]
    refine ⟨halted, ?_⟩
    simp [Registers.cancel, cancelTimers, rests.mode, rests.timer]

theorem Follows.step (follows : Follows offset poller registers) (operation : Poller.Operation) :
    Together offset (registers.step operation) (poller.step (operation.since offset)) := by
  cases operation with
  | start job reason => exact follows.start job reason
  | observe job runs => exact follows.observe job runs
  | tick timer => exact follows.tick timer
  | answer number outcome => exact follows.answer number outcome
  | cancel => exact follows.cancel

/-- The effects of all further operations, whatever the registers hold of earlier sessions. -/
theorem Follows.history (follows : Follows offset poller registers)
    (operations : List Poller.Operation) :
    registers.history operations =
      (poller.history (operations.map (·.since offset))).map fun stepped =>
        stepped.2.map (Effect.behind offset) := by
  induction operations generalizing poller registers with
  | nil => rfl
  | cons head tail induction =>
      rcases follows.step head with ⟨next, effects⟩
      rw [List.map_cons, Registers.history, Poller.history, List.map_cons, effects,
        induction next]

end Registers

/-! With nothing before them the numbers stay as they are. -/

@[simp] theorem Effect.behind_zero : Effect.behind ⟨0, 0⟩ = id := by
  funext effect
  cases effect <;> simp [behind]

namespace Poller

@[simp] theorem Operation.since_zero : Operation.since ⟨0, 0⟩ = id := by
  funext operation
  cases operation <;> rfl

theorem same_history {poller : Poller} {registers : Registers}
    (follows : registers.Follows ⟨0, 0⟩ poller) (operations : List Operation) :
    registers.history operations = (poller.history operations).map Prod.snd := by
  simpa using follows.history operations

theorem timing_step (poller : Poller) (operation : Operation) :
    (poller.step operation).1.timing = poller.timing := by
  have move := step_moves poller operation
  generalize poller.step operation = stepped at move
  rcases stepped with ⟨next, effects⟩
  cases move <;> rfl

theorem timing_after (poller : Poller) (operations : List Operation) :
    (poller.after operations).timing = poller.timing := by
  induction operations using List.reverseRecOn with
  | nil => rfl
  | append_singleton operations last induction => rw [after_concat, timing_step, induction]

/-- The numbers that a poller has given out. -/
def given (poller : Poller) : Offset :=
  ⟨poller.lastTimer, poller.lastFetch⟩

/-- Such registers go along with the poller that left them, and also with a new one. -/
theorem follows_of_leftBy {poller : Poller} {registers : Registers}
    (left : registers.LeftBy poller) (resting : poller.session? = none) :
    registers.Follows ⟨0, 0⟩ poller := by
  refine ⟨left.timing, ?_, ?_, ?_⟩
  · rw [left.lastTimer, Nat.zero_add]
  · rw [left.lastFetch, Nat.zero_add]
  · rw [resting]
    exact left.toRests

theorem follows_new_of_leftBy {timing : PollTiming} {past : List Operation} {registers : Registers}
    (left : registers.LeftBy ((new timing).after past)) :
    registers.Follows ((new timing).after past).given (new timing) :=
  ⟨left.timing.trans (timing_after _ _), left.lastTimer, left.lastFetch, left.toRests⟩

theorem exists_leftBy (poller : Poller) : ∃ registers : Registers, registers.LeftBy poller :=
  ⟨⟨poller.timing, .stopped, none, none, poller.lastTimer, poller.lastFetch, 1, none⟩,
    ⟨nofun, rfl⟩, rfl, rfl, rfl⟩

/-- A poller that does not poll goes on as a new one does, with its numbers behind those that it
gave out before. Kept in registers, a poller has the same effects, and what they still hold of
earlier sessions is never seen. -/
theorem resting_as_new (timing : PollTiming) (past operations : List Operation)
    (resting : ((new timing).after past).phase = .idle ∨
      ((new timing).after past).phase = .stopped) :
    let poller := (new timing).after past
    (poller.history operations).map Prod.snd =
        ((new timing).history (operations.map (·.since poller.given))).map (fun stepped =>
          stepped.2.map (Effect.behind poller.given)) ∧
      (Registers.new timing).history (past ++ operations) =
        ((new timing).history (past ++ operations)).map Prod.snd ∧
      ∀ registers : Registers, registers.LeftBy poller →
        registers.history operations = (poller.history operations).map Prod.snd := by
  intro poller
  have noSession : poller.session? = none := by
    rcases resting with idle | stopped
    · rw [session?, idle]
    · rw [session?, stopped]
  refine ⟨?_, same_history (Registers.follows_new timing) _, ?_⟩
  · rcases exists_leftBy poller with ⟨registers, left⟩
    rw [← same_history (follows_of_leftBy left noSession)]
    exact (follows_new_of_leftBy left).history operations
  · intro registers left
    exact same_history (follows_of_leftBy left noSession) operations

/-- The polling of a job has ended with its first answer. Then the old timer fires and the old
answer comes again, another job is polled, and this is cancelled in the end. -/
theorem resting_as_new_of_stopped :
    let timing : PollTiming := ⟨.ofSeconds 3, .ofSeconds 2⟩
    let past : List Operation := [.start "a" .rerun, .tick 1, .answer 1 (.ok [])]
    let operations : List Operation :=
      [.tick 1, .answer 1 (.error "late"), .start "b" .observed, .tick 2, .answer 1 (.ok []),
        .answer 2 (.error "refused"), .cancel]
    ((new timing).after past).phase = .stopped ∧
      (((new timing).after past).history operations).map Prod.snd =
        [[], [], [.schedule 2 "b" (.ofSeconds 3) (.ofSeconds 3)], [.fetch "b" 2], [],
          [.fetchFailed "refused"], [.cancelTimer 2, .stopped "b" .cancelled]] := by
  intro timing past operations
  have stopped : ((new timing).after past).phase = .stopped := by decide +kernel
  exact ⟨stopped, (resting_as_new timing past operations (.inr stopped)).1.trans
    (by decide +kernel)⟩

end Poller

end ExportWatch

import ExportWatch.Watch.Event

/-! The polling of a job's runs, without a clock and without a network. Each
operation gives the new state and what is to be done. Timers and fetches are
numbered, so that ticks and answers that come too late are told apart. -/

namespace ExportWatch

structure PollTiming where
  interval : Span
  startupDelay : Span
  deriving DecidableEq, Repr

inductive Effect where
  | schedule (timer : Nat) (job : String) (delay period : Span)
  | cancelTimer (timer : Nat)
  | fetch (job : String) (number : Nat)
  | update (run : Run)
  | fetchFailed (message : String)
  | stopped (job : String) (reason : StopReason)
  | refreshCompleted (job : String)
  deriving DecidableEq, Repr

/-- A session is the polling of one job on one timer. Answers to fetches with a
number below `firstFetch` belong to an earlier session, and those up to
`lastApplied` have been overtaken. -/
structure Session where
  job : String
  timer : Nat
  firstFetch : Nat
  lastApplied : Option Nat
  deriving DecidableEq, Repr

inductive Phase where
  | idle
  | polling (session : Session)
  | stopped
  deriving DecidableEq, Repr

structure Poller where
  timing : PollTiming
  phase : Phase
  lastTimer : Nat
  lastFetch : Nat
  deriving DecidableEq, Repr

namespace Session

def isStale (session : Session) (number : Nat) : Bool :=
  number < session.firstFetch || session.lastApplied.any (number ≤ ·)

end Session

namespace Poller

/-- A job is never polled more often than ten times in a second. -/
def leastInterval : Span :=
  .ofMilliseconds 100

def period (timing : PollTiming) : Span :=
  ⟨max timing.interval.nanoseconds leastInterval.nanoseconds⟩

def new (timing : PollTiming) : Poller where
  timing := { timing with interval := period timing }
  phase := .idle
  lastTimer := 0
  lastFetch := 0

def session? (poller : Poller) : Option Session :=
  match poller.phase with
  | .polling session => some session
  | _ => none

def activeTimer (poller : Poller) : Option Nat :=
  poller.session?.map (·.timer)

def cancelTimers (poller : Poller) : List Effect :=
  poller.activeTimer.toList.map .cancelTimer

/-! The polling of a job that is already polled goes on as it is. -/

def isPolling (poller : Poller) (job : String) : Bool :=
  poller.session?.any (·.job = job)

def startDelay (poller : Poller) : StartReason → Span
  | .observed => poller.timing.interval
  | .rerun => poller.timing.startupDelay

def openSession (poller : Poller) (job : String) : Poller :=
  { poller with
    lastTimer := poller.lastTimer + 1
    phase := .polling {
      job := job
      timer := poller.lastTimer + 1
      firstFetch := poller.lastFetch + 1
      lastApplied := none } }

def start (poller : Poller) (job : String) (reason : StartReason) : Poller × List Effect :=
  if poller.isPolling job then (poller, [])
  else
    (poller.openSession job,
      poller.cancelTimers ++
        [.schedule (poller.lastTimer + 1) job (poller.startDelay reason) poller.timing.interval])

/-! Polling starts when the newest of the runs, which is the first, is not
finished. -/

def observe (poller : Poller) (job : String) (runs : List Run) : Poller × List Effect :=
  match runs with
  | newest :: _ => if newest.isTerminal then (poller, []) else poller.start job .observed
  | [] => (poller, [])

def tick (poller : Poller) (timer : Nat) : Poller × List Effect :=
  match poller.phase with
  | .polling session =>
      if session.timer = timer then
        ({ poller with lastFetch := poller.lastFetch + 1 },
          [.fetch session.job (poller.lastFetch + 1)])
      else (poller, [])
  | _ => (poller, [])

/-! The answer to a fetch. A failure leaves the polling as it is; an empty list
and a finished newest run end it. -/

def stopFor (poller : Poller) (session : Session) (reason : StopReason) : Poller × List Effect :=
  ({ poller with phase := .stopped },
    [.cancelTimer session.timer, .stopped session.job reason, .refreshCompleted session.job])

def apply (poller : Poller) (session : Session) (outcome : Except String (List Run)) :
    Poller × List Effect :=
  match outcome with
  | .error message => (poller, [.fetchFailed message])
  | .ok [] => poller.stopFor session .noRuns
  | .ok (newest :: _) =>
      if newest.isTerminal then poller.stopFor session (.terminal newest.status)
      else (poller, [.update newest])

def answer (poller : Poller) (number : Nat) (outcome : Except String (List Run)) :
    Poller × List Effect :=
  match poller.phase with
  | .polling session =>
      if session.isStale number then (poller, [])
      else
        { poller with phase := .polling { session with lastApplied := some number } }.apply
          session outcome
  | _ => (poller, [])

def cancel (poller : Poller) : Poller × List Effect :=
  match poller.phase with
  | .polling session =>
      ({ poller with phase := .stopped },
        [.cancelTimer session.timer, .stopped session.job .cancelled])
  | _ => ({ poller with phase := .stopped }, [])

/-! All that can be done to a poller, as one value, and whole histories. -/

inductive Operation where
  | start (job : String) (reason : StartReason)
  | observe (job : String) (runs : List Run)
  | tick (timer : Nat)
  | answer (number : Nat) (outcome : Except String (List Run))
  | cancel

def step (poller : Poller) : Operation → Poller × List Effect
  | .start job reason => poller.start job reason
  | .observe job runs => poller.observe job runs
  | .tick timer => poller.tick timer
  | .answer number outcome => poller.answer number outcome
  | .cancel => poller.cancel

/-- The poller and the effects after each operation. -/
def history (poller : Poller) : List Operation → List (Poller × List Effect)
  | [] => []
  | head :: tail =>
      let stepped := poller.step head
      stepped :: history stepped.1 tail

example : (((new ⟨.ofSeconds 3, .ofSeconds 2⟩).history
    [.start "a" .rerun, .tick 1, .answer 1 (.ok []), .tick 1]).map (·.2.length)) =
      [1, 1, 3, 0] := by decide +kernel

end Poller

end ExportWatch

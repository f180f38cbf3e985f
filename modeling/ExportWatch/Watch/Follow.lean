import ExportWatch.Watch.Backend
import ExportWatch.Watch.Poller

/-! Following the runs of a job on a clock: the poller's effects are carried out
against a backend, ticks come from a periodic timer, and commands come from
outside. Time is what the replies take and what is waited for. -/

namespace ExportWatch

/-- Moments are nanoseconds since the start. -/
abbrev Moment : Type :=
  Nat

/-- A periodic timer. A tick that is late by more than five milliseconds puts the
following tick a whole period after itself; otherwise ticks are a period apart. -/
structure Timer where
  number : Nat
  deadline : Moment
  period : Nat
  deriving DecidableEq, Repr

namespace Timer

def tolerance : Nat :=
  5 * Span.nanosecondsPerMillisecond

def firing (timer : Timer) (now : Moment) : Moment :=
  max now timer.deadline

def after (timer : Timer) (fired : Moment) : Timer :=
  { timer with
    deadline :=
      (if timer.deadline + tolerance < fired then fired else timer.deadline) + timer.period }

end Timer

inductive Call where
  | latestRuns
  | completedRuns
  | rerun
  deriving DecidableEq, Repr

inductive Occurrence where
  | call (call : Call) (job : String)
  | event (event : WatchEvent)
  | command (command : Command)
  deriving DecidableEq, Repr

/-- One line of the record of a watch. -/
structure Entry where
  moment : Moment
  occurrence : Occurrence
  deriving DecidableEq, Repr

structure Watch (State : Type) where
  poller : Poller
  timer : Option Timer
  now : Moment
  state : State
  waiting : List Command
  coming : List (Moment × Command)
  stopped : Option StopReason
  record : List Entry

namespace Watch

variable {State : Type}

def new (timing : PollTiming) (state : State) (coming : List (Moment × Command)) :
    Watch State where
  poller := .new timing
  timer := none
  now := 0
  state := state
  waiting := []
  coming := coming
  stopped := none
  record := []

def note (watch : Watch State) (occurrence : Occurrence) : Watch State :=
  { watch with record := watch.record ++ [⟨watch.now, occurrence⟩] }

def emit (watch : Watch State) (event : WatchEvent) : Watch State :=
  watch.note (.event event)

/-- A call holds everything else up until its reply is there. -/
def call {α : Type} (watch : Watch State) (call : Call) (job : String)
    (request : State → Reply α × State) : Watch State × Except Causes α :=
  let noted := watch.note (.call call job)
  let (reply, state) := request watch.state
  ({ noted with
      now := watch.now + reply.delay.nanoseconds
      state := state
      waiting := watch.waiting ++ reply.commands },
    reply.outcome)

/-! Carrying out effects. Only the answer to a fetch gives further effects, and
these are carried out after those that are already there. They hold no fetch, so
two rounds are enough. -/

def fetch (backend : Backend State) (watch : Watch State) (job : String) (number : Nat) :
    Watch State × List Effect :=
  let (called, outcome) := watch.call .latestRuns job (backend.latestRuns job)
  let (poller, effects) := called.poller.answer number (outcome.mapError Causes.text)
  ({ called with poller := poller }, effects)

def reloadReport (job : String) : Except Causes (List Run) → WatchEvent
  | .ok runs => .completedRuns job runs
  | .error causes => .notice (.message ("Failed to reload completed runs: " ++ causes.text))

def refresh (backend : Backend State) (watch : Watch State) (job : String) : Watch State :=
  let (called, outcome) := watch.call .completedRuns job (backend.completedRuns job)
  called.emit (reloadReport job outcome)

def arm (watch : Watch State) (number : Nat) (delay period : Span) : Watch State :=
  { watch with
    timer := some ⟨number, watch.now + delay.nanoseconds, period.nanoseconds⟩ }

def disarm (watch : Watch State) (number : Nat) : Watch State :=
  { watch with timer := watch.timer.filter fun timer => timer.number != number }

def perform (backend : Backend State) (watch : Watch State) : Effect → Watch State × List Effect
  | .schedule number job delay period =>
      ((watch.arm number delay period).emit (.started job), [])
  | .cancelTimer number => (watch.disarm number, [])
  | .fetch job number => watch.fetch backend job number
  | .update run => (watch.emit (.runUpdated run), [])
  | .fetchFailed message => (watch.emit (.fetchFailed message), [])
  | .stopped job reason => ({ watch with stopped := some reason }.emit (.stopped job reason), [])
  | .refreshCompleted job => (watch.refresh backend job, [])

def performAll (backend : Backend State) (watch : Watch State) :
    List Effect → Watch State × List Effect
  | [] => (watch, [])
  | head :: tail =>
      let (performed, first) := watch.perform backend head
      let (finished, others) := performed.performAll backend tail
      (finished, first ++ others)

def carryOut (backend : Backend State) (watch : Watch State) (effects : List Effect) :
    Watch State :=
  let (performed, followUps) := watch.performAll backend effects
  (performed.performAll backend followUps).1

/-! One turn: the watch is over, or else the next command or the next tick is
dealt with. -/

structure Ending (State : Type) where
  outcome : Except Causes (Option StopReason)
  watch : Watch State

/-- A watch goes on, or it is over. -/
inductive Stage (State : Type) where
  | running (watch : Watch State)
  | finished (ending : Ending State)

def Stage.watch : Stage State → Watch State
  | .running watch => watch
  | .finished ending => ending.watch

def Stage.ending? : Stage State → Option (Ending State)
  | .running _ => none
  | .finished ending => some ending

def operate (backend : Backend State) (watch : Watch State)
    (operation : Poller → Poller × List Effect) : Watch State :=
  let (poller, effects) := operation watch.poller
  { watch with poller := poller }.carryOut backend effects

def obey (backend : Backend State) (watch : Watch State) (command : Command) : Stage State :=
  let obeyed := watch.note (.command command)
  match command with
  | .cancel => .running (obeyed.operate backend Poller.cancel)
  | .quit | .close => .finished ⟨.ok none, obeyed⟩

def fire (backend : Backend State) (watch : Watch State) (timer : Timer) : Stage State :=
  let fired := timer.firing watch.now
  .running ({ watch with now := fired, timer := some (timer.after fired) }.operate backend
    fun poller => poller.tick timer.number)

/-- The next command, and the watch at the moment when it is there. -/
def nextCommand (watch : Watch State) : Option (Command × Watch State) :=
  match watch.waiting, watch.coming with
  | command :: others, _ => some (command, { watch with waiting := others })
  | [], (moment, command) :: others =>
      some (command, { watch with now := max watch.now moment, coming := others })
  | [], [] => none

/-- Which is taken first when a command and a tick are ready at the same moment:
a tick where this is true, a command elsewhere. -/
abbrev Precedence (State : Type) : Type :=
  Watch State → Bool

def tickGoesFirst (tickFirst : Precedence State) (watch : Watch State) (timer : Timer)
    (moment : Moment) : Bool :=
  timer.firing watch.now < moment || timer.firing watch.now = moment && tickFirst watch

def turn (backend : Backend State) (tickFirst : Precedence State) (watch : Watch State) :
    Stage State :=
  match watch.stopped with
  | some reason => .finished ⟨.ok (some reason), watch⟩
  | none =>
      match watch.nextCommand, watch.timer with
      | some (command, arrived), some timer =>
          if watch.tickGoesFirst tickFirst timer arrived.now then watch.fire backend timer
          else arrived.obey backend command
      | some (command, arrived), none => arrived.obey backend command
      | none, some timer => watch.fire backend timer
      | none, none => .running watch

/-! A watch may go on for ever, so the number of turns is bounded. -/

def turns (backend : Backend State) (tickFirst : Precedence State) : Nat → Stage State → Stage State
  | 0, stage => stage
  | _, .finished ending => .finished ending
  | count + 1, .running watch => turns backend tickFirst count (watch.turn backend tickFirst)

/-- A watch begins with runs that are already known, or asks for a new run. -/
inductive Kickoff where
  | observe (runs : List Run)
  | rerun

def begin (backend : Backend State) (watch : Watch State) (job : String) :
    Kickoff → Watch State × Except Causes (List Effect)
  | .observe runs =>
      let (poller, effects) := watch.poller.observe job runs
      ({ watch with poller := poller }, .ok effects)
  | .rerun =>
      let (called, outcome) := watch.call .rerun job (backend.rerun job)
      match outcome with
      | .error causes => (called, .error causes)
      | .ok run =>
          let (poller, effects) := called.poller.start job .rerun
          ({ called with poller := poller }.emit (.notice (.rerunRequested job run.uid)),
            .ok effects)

def idleNotice (job : String) : WatchEvent :=
  .notice (.message ("No run in progress for job " ++ job))

/-- What a kickoff leads to. A poller that does not poll has nothing to follow. -/
def kickOff (backend : Backend State) (watch : Watch State) (job : String) (kickoff : Kickoff) :
    Stage State :=
  match watch.begin backend job kickoff with
  | (begun, .error causes) => .finished ⟨.error causes, begun⟩
  | (begun, .ok effects) =>
      if begun.poller.phase = .idle then .finished ⟨.ok none, begun.emit (idleNotice job)⟩
      else .running (begun.carryOut backend effects)

def followed (backend : Backend State) (tickFirst : Precedence State) (count : Nat)
    (job : String) (kickoff : Kickoff) (watch : Watch State) : Stage State :=
  turns backend tickFirst count (watch.kickOff backend job kickoff)

/-- How a watch ends within a number of turns. A command goes before a tick that
is ready at the same moment. -/
def follow (backend : Backend State) (count : Nat) (job : String) (kickoff : Kickoff)
    (watch : Watch State) : Option (Ending State) :=
  (watch.followed backend (fun _ => false) count job kickoff).ending?

/-! What the record shows. -/

def events (watch : Watch State) : List (Moment × WatchEvent) :=
  watch.record.filterMap fun entry =>
    match entry.occurrence with
    | .event event => some (entry.moment, event)
    | _ => none

def calls (watch : Watch State) : List (Moment × Call × String) :=
  watch.record.filterMap fun entry =>
    match entry.occurrence with
    | .call call job => some (entry.moment, call, job)
    | _ => none

/-- On a script each turn but the last two takes a command or a reply. -/
def scriptTurns (script : Script) (coming : List (Moment × Command)) : Nat :=
  script.latest.length + coming.length + script.rerun.commands.length +
    (script.latest.flatMap (·.commands)).length + 2

end Watch

end ExportWatch

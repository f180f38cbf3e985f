import ExportWatch.Proofs.Watch.Course
import ExportWatch.Watch.Follow

/-! What one turn of a watch does. A watch that polls has the timer of its poller, so
that a tick is one fetch, and the answer to it is not stale. -/

namespace ExportWatch

open Poller (Reports Ends)

/-- The event that tells of an answer which leaves the polling as it is. -/
inductive Reported : Except Causes (List Run) → WatchEvent → Prop
  | failure (causes : Causes) : Reported (.error causes) (.fetchFailed causes.text)
  | progress (newest : Run) (others : List Run) :
      newest.isTerminal = false → Reported (.ok (newest :: others)) (.runUpdated newest)

namespace Poller

variable {poller : Poller} {session : Session}

/-- The poller once it has asked for the runs and the answer is applied. -/
def answered (poller : Poller) (session : Session) : Poller :=
  { poller with
    lastFetch := poller.lastFetch + 1
    phase := .polling { session with lastApplied := some (poller.lastFetch + 1) } }

def asked (poller : Poller) : Poller :=
  { poller with lastFetch := poller.lastFetch + 1 }

theorem tick_of_polling (polling : poller.phase = .polling session) :
    poller.tick session.timer =
      (poller.asked, [.fetch session.job (poller.lastFetch + 1)]) := by
  simp [tick, polling, asked]

theorem answer_of_fresh {number : Nat} (polling : poller.phase = .polling session)
    (fresh : session.isStale number = false) (outcome : Except String (List Run)) :
    (∃ report, Reports outcome report ∧ poller.answer number outcome =
      ({ poller with phase := .polling { session with lastApplied := some number } }, [report])) ∨
    ∃ reason, Ends outcome reason ∧ poller.answer number outcome =
      ({ poller with phase := .stopped },
        [.cancelTimer session.timer, .stopped session.job reason,
          .refreshCompleted session.job]) := by
  have move := poller.step_moves (.answer number outcome)
  have current := session?_eq_some_iff.mpr polling
  rw [step] at move
  generalize poller.answer number outcome = stepped at move ⊢
  rcases stepped with ⟨next, effects⟩
  cases move with
  | ignored stale =>
      rw [ignores, current, Option.all_some, fresh] at stale
      cases stale
  | opened opens _ => cases opens
  | reported samePhase _ reports =>
      rw [polling] at samePhase
      cases samePhase
      exact .inl ⟨_, reports, rfl⟩
  | finished samePhase _ ends =>
      rw [polling] at samePhase
      cases samePhase
      exact .inr ⟨_, ends, rfl⟩

theorem cancel_of_polling (polling : poller.phase = .polling session) :
    poller.cancel =
      ({ poller with phase := .stopped },
        [.cancelTimer session.timer, .stopped session.job .cancelled]) := by
  simp [cancel, polling]

end Poller

theorem Poller.Ends.of_text {outcome : Except Causes (List Run)} {reason : StopReason}
    (ends : Ends (outcome.mapError Causes.text) reason) : Ends outcome reason := by
  cases outcome with
  | error causes => cases ends
  | ok runs =>
      cases ends with
      | empty => exact .empty
      | terminal newest others terminal => exact .terminal newest others terminal

namespace Watch

variable {State : Type} {backend : Backend State} {watch : Watch State} {job : String}
variable {session : Session} {timer : Timer}

theorem perform_report (backend : Backend State) {outcome : Except Causes (List Run)} {report : Effect}
    (reports : Reports (outcome.mapError Causes.text) report) :
    ∃ event, Reported outcome event ∧
      ∀ watch : Watch State, watch.perform backend report = (watch.emit event, []) := by
  cases outcome with
  | error causes =>
      cases reports
      exact ⟨_, .failure causes, fun _ => rfl⟩
  | ok runs =>
      cases reports with
      | progress newest others running => exact ⟨_, .progress newest others running, fun _ => rfl⟩

/-- The watch goes on polling a job. -/
structure Follows (watch : Watch State) (job : String) (session : Session) (timer : Timer) :
    Prop where
  polling : watch.poller.phase = .polling session
  sameJob : session.job = job
  armed : watch.timer = some timer
  sameTimer : timer.number = session.timer
  fresh : session.isStale (watch.poller.lastFetch + 1) = false
  going : watch.stopped = none

/-- The watch when the timer has fired and the answer to a fetch is there. -/
def askRuns (backend : Backend State) (watch : Watch State) (timer : Timer) (job : String) :
    Watch State × Except Causes (List Run) :=
  { watch with
      now := timer.firing watch.now
      timer := some (timer.after (timer.firing watch.now)) }.call .latestRuns job
    (backend.latestRuns job)

def halted (watch : Watch State) (poller : Poller) (job : String) (reason : StopReason) :
    Watch State :=
  { watch with
      poller := { poller with phase := .stopped }
      timer := none
      stopped := some reason }.emit (.stopped job reason)

/-- What a tick leads to. -/
inductive Round (backend : Backend State) (watch : Watch State) (job : String)
    (session : Session) (timer : Timer) : Watch State → Prop
  | reported {event : WatchEvent} :
      Reported (watch.askRuns backend timer job).2 event →
      Round backend watch job session timer
        ({ (watch.askRuns backend timer job).1 with
          poller := watch.poller.answered session }.emit event)
  | ended {reason : StopReason} :
      Ends (watch.askRuns backend timer job).2 reason →
      Round backend watch job session timer
        (((watch.askRuns backend timer job).1.halted watch.poller.asked job reason).refresh
          backend job)

theorem operate_eq (watch : Watch State) {operation : Poller → Poller × List Effect}
    {poller : Poller} {effects : List Effect} (operated : operation watch.poller = (poller, effects)) :
    watch.operate backend operation = { watch with poller := poller }.carryOut backend effects := by
  rw [operate, operated]

theorem carryOut_fetch {number : Nat} {poller : Poller} {effects : List Effect}
    (answer : watch.poller.answer number
      ((watch.call .latestRuns job (backend.latestRuns job)).2.mapError Causes.text) =
        (poller, effects)) :
    watch.carryOut backend [.fetch job number] =
      ({ (watch.call .latestRuns job (backend.latestRuns job)).1 with poller := poller }.performAll
        backend effects).1 := by
  have fetched : watch.fetch backend job number =
      ({ (watch.call .latestRuns job (backend.latestRuns job)).1 with poller := poller },
        effects) := by
    have samePoller :
        (watch.call .latestRuns job (backend.latestRuns job)).1.poller = watch.poller := rfl
    simp only [fetch, samePoller, answer]
  simp only [carryOut, performAll, perform, fetched, List.append_nil]

/-! The effects that end the polling. -/

theorem performAll_stopped (backend : Backend State) (watch : Watch State) {number : Nat}
    (armed : watch.timer = some timer) (sameTimer : timer.number = number)
    (job : String) (reason : StopReason) (rest : List Effect) :
    watch.performAll backend (.cancelTimer number :: .stopped job reason :: rest) =
      ({ watch with timer := none, stopped := some reason }.emit
        (.stopped job reason)).performAll backend rest := by
  have disarmed : watch.disarm number = { watch with timer := none } := by
    simp [disarm, armed, Option.filter, sameTimer]
  simp only [performAll, perform, disarmed, List.nil_append]

theorem performAll_ended (backend : Backend State) (watch : Watch State) {number : Nat}
    (armed : watch.timer = some timer) (sameTimer : timer.number = number) (job : String)
    (reason : StopReason) :
    (watch.performAll backend
        [.cancelTimer number, .stopped job reason, .refreshCompleted job]).1 =
      ({ watch with timer := none, stopped := some reason }.emit
        (.stopped job reason)).refresh backend job := by
  rw [performAll_stopped backend watch armed sameTimer]
  rfl

theorem carryOut_cancelled (backend : Backend State) (watch : Watch State) {number : Nat}
    (armed : watch.timer = some timer) (sameTimer : timer.number = number) (job : String) :
    watch.carryOut backend [.cancelTimer number, .stopped job .cancelled] =
      { watch with timer := none, stopped := some .cancelled }.emit (.stopped job .cancelled) := by
  rw [carryOut, performAll_stopped backend watch armed sameTimer]
  rfl

theorem fire_round (follows : Follows watch job session timer) :
    ∃ next, watch.fire backend timer = .running next ∧
      Round backend watch job session timer next := by
  rcases follows with ⟨polling, rfl, armed, sameTimer, fresh, going⟩
  have tick := Poller.tick_of_polling polling
  rw [← sameTimer] at tick
  have asked : watch.poller.asked.phase = .polling session := polling
  have answer := Poller.answer_of_fresh asked fresh
    ((watch.askRuns backend timer session.job).2.mapError Causes.text)
  rcases answer with ⟨report, reports, answer⟩ | ⟨reason, ends, answer⟩
  · rcases perform_report backend reports with ⟨event, reported, performed⟩
    refine ⟨_, congrArg Stage.running ?_, .reported reported⟩
    refine (operate_eq _ tick).trans ((carryOut_fetch answer).trans ?_)
    simp only [performAll, performed]
    rfl
  · have firedTimer : (timer.after (timer.firing watch.now)).number = session.timer := sameTimer
    refine ⟨_, congrArg Stage.running ?_, .ended ends.of_text⟩
    refine (operate_eq _ tick).trans ((carryOut_fetch answer).trans ?_)
    exact performAll_ended backend _ rfl firedTimer session.job reason

theorem obey_cancel (follows : Follows watch job session timer) :
    watch.obey backend .cancel =
      .running ((watch.note (.command .cancel)).halted watch.poller job .cancelled) := by
  rcases follows with ⟨polling, rfl, armed, sameTimer, fresh, going⟩
  refine congrArg Stage.running ?_
  refine (operate_eq (watch.note (.command .cancel)) (Poller.cancel_of_polling polling)).trans ?_
  apply carryOut_cancelled
  · exact armed
  · exact sameTimer

/-! A watch that polls still does so when the answer was reported and when a command
arrives. -/

theorem Follows.reported (follows : Follows watch job session timer) (event : WatchEvent) :
    Follows ({ (watch.askRuns backend timer job).1 with
        poller := watch.poller.answered session }.emit event) job
      { session with lastApplied := some (watch.poller.lastFetch + 1) }
      (timer.after (timer.firing watch.now)) where
  polling := rfl
  sameJob := follows.sameJob
  armed := rfl
  sameTimer := follows.sameTimer
  fresh := by
    have before := Session.isStale_eq_false_iff.mp follows.fresh
    rw [Session.isStale_eq_false_iff]
    refine ⟨before.1.trans (Nat.le_succ _), ?_⟩
    rintro applied ⟨⟩
    exact Nat.lt_succ_self _
  going := follows.going

/-- What comes from outside changes nothing but the clock and what is to come. -/
structure SameCourse (watch arrived : Watch State) : Prop where
  poller : arrived.poller = watch.poller
  timer : arrived.timer = watch.timer
  state : arrived.state = watch.state
  stopped : arrived.stopped = watch.stopped
  record : arrived.record = watch.record

theorem sameCourse_of_nextCommand {command : Command} {arrived : Watch State}
    (next : watch.nextCommand = some (command, arrived)) : SameCourse watch arrived := by
  unfold nextCommand at next
  split at next
  · cases next
    exact ⟨rfl, rfl, rfl, rfl, rfl⟩
  · cases next
    exact ⟨rfl, rfl, rfl, rfl, rfl⟩
  · cases next

theorem Follows.arrived {arrived : Watch State} (follows : Follows watch job session timer)
    (same : SameCourse watch arrived) : Follows arrived job session timer where
  polling := same.poller ▸ follows.polling
  sameJob := follows.sameJob
  armed := same.timer ▸ follows.armed
  sameTimer := follows.sameTimer
  fresh := same.poller ▸ follows.fresh
  going := same.stopped ▸ follows.going

/-! A turn deals with what comes first, the tick of the timer or a command. -/

section First

variable {tickFirst : Precedence State}

/-- The timer that fires in the next turn. -/
def due? (tickFirst : Precedence State) (watch : Watch State) : Option Timer :=
  match watch.stopped, watch.nextCommand with
  | some _, _ => none
  | none, none => watch.timer
  | none, some (_, arrived) =>
      watch.timer.filter fun timer => watch.tickGoesFirst tickFirst timer arrived.now

theorem turn_of_due {timer : Timer} (due : watch.due? tickFirst = some timer) :
    watch.turn backend tickFirst = watch.fire backend timer := by
  unfold due? at due
  unfold turn
  cases stopped : watch.stopped with
  | some reason =>
      rw [stopped] at due
      cases due
  | none =>
      cases next : watch.nextCommand with
      | none =>
          simp only [stopped, next] at due
          simp only [due]
      | some arrival =>
          simp only [stopped, next, Option.filter_eq_some_iff] at due
          simp only [due.1, if_pos due.2]

theorem turn_of_command {command : Command} {arrived : Watch State}
    (going : watch.stopped = none) (notDue : watch.due? tickFirst = none)
    (next : watch.nextCommand = some (command, arrived)) :
    watch.turn backend tickFirst = arrived.obey backend command := by
  simp only [due?, going, next, Option.filter_eq_none_iff] at notDue
  unfold turn
  cases armed : watch.timer with
  | none => simp only [going, next]
  | some timer => simp only [going, next, if_neg (notDue timer armed)]

/-- Of a watch that polls, the timer fires in the next turn or a command is obeyed. -/
theorem Follows.due_or_command {session : Session} {timer : Timer}
    (follows : Follows watch job session timer) (tickFirst : Precedence State) :
    watch.due? tickFirst = some timer ∨
      watch.due? tickFirst = none ∧
        ∃ command arrived, watch.nextCommand = some (command, arrived) := by
  cases next : watch.nextCommand with
  | none =>
      left
      simp only [due?, follows.going, next, follows.armed]
  | some arrival =>
      rcases arrival with ⟨command, arrived⟩
      simp only [due?, follows.going, next, follows.armed]
      cases goesFirst : watch.tickGoesFirst tickFirst timer arrived.now with
      | true => simp [Option.filter, goesFirst]
      | false => simp [Option.filter, goesFirst]

theorem Follows.turn_of_due (follows : Follows watch job session timer)
    (due : watch.due? tickFirst = some timer) :
    ∃ next, watch.turn backend tickFirst = .running next ∧
      Round backend watch job session timer next := by
  rw [Watch.turn_of_due due]
  exact fire_round follows

theorem turn_of_follows (backend : Backend State) (follows : Follows watch job session timer)
    (tickFirst : Precedence State) :
    (∃ next, watch.turn backend tickFirst = .running next ∧
        Round backend watch job session timer next) ∨
      ∃ command arrived, watch.nextCommand = some (command, arrived) ∧
        watch.turn backend tickFirst = arrived.obey backend command := by
  rcases follows.due_or_command tickFirst with due | ⟨notDue, command, arrived, next⟩
  · exact .inl (follows.turn_of_due due)
  · right
    exact ⟨command, arrived, next, turn_of_command follows.going notDue next⟩

end First

theorem turn_of_stopped {reason : StopReason} (stopped : watch.stopped = some reason)
    (tickFirst : Precedence State) :
    watch.turn backend tickFirst = .finished ⟨.ok (some reason), watch⟩ := by
  simp only [turn, stopped]

/-! Any number of turns. -/

section Turns

variable {tickFirst : Precedence State} {kickoff : Kickoff}

/-- What each turn keeps is kept by any number of turns. -/
theorem turns_induction {Holds : Stage State → Prop} {stage : Stage State}
    (turn : ∀ watch, Holds (.running watch) → Holds (watch.turn backend tickFirst))
    (holds : Holds stage) (count : Nat) : Holds (turns backend tickFirst count stage) := by
  induction count generalizing stage with
  | zero => exact holds
  | succ count induction =>
      cases stage with
      | running watch => exact induction (turn watch holds)
      | finished ending => exact holds

theorem turns_succ (count : Nat) (stage : Stage State) :
    turns backend tickFirst (count + 1) stage =
      turns backend tickFirst 1 (turns backend tickFirst count stage) := by
  induction count generalizing stage with
  | zero => rfl
  | succ count induction =>
      cases stage with
      | running watch => exact induction (watch.turn backend tickFirst)
      | finished ending => rfl

theorem followed_succ_of_running {count : Nat} {reached : Watch State}
    (running : watch.followed backend tickFirst count job kickoff = .running reached) :
    watch.followed backend tickFirst (count + 1) job kickoff = reached.turn backend tickFirst := by
  unfold followed at running ⊢
  rw [turns_succ, running]
  rfl

theorem followed_succ_of_finished {count : Nat} {ending : Ending State}
    (finished : watch.followed backend tickFirst count job kickoff = .finished ending) :
    watch.followed backend tickFirst (count + 1) job kickoff = .finished ending := by
  unfold followed at finished ⊢
  rw [turns_succ, finished]
  rfl

end Turns

/-! How a watch begins. -/

/-- The watch when a session is opened for a job. -/
def opened (watch : Watch State) (job : String) (reason : StartReason) : Watch State :=
  ({ watch with poller := watch.poller.openSession job }.arm (watch.poller.lastTimer + 1)
    (watch.poller.startDelay reason) watch.poller.timing.interval).emit (.started job)

theorem opened_follows (watch : Watch State) (going : watch.stopped = none) (job : String)
    (reason : StartReason) :
    ∃ session timer, Follows (watch.opened job reason) job session timer :=
  ⟨_, _, {
    polling := rfl
    sameJob := rfl
    armed := rfl
    sameTimer := rfl
    fresh := Session.isStale_eq_false_iff.mpr ⟨Nat.le_refl _, fun _ applied => by cases applied⟩
    going := going }⟩

theorem start_of_idle (idle : watch.poller.phase = .idle) (job : String) (reason : StartReason) :
    watch.poller.start job reason =
      (watch.poller.openSession job, [.schedule (watch.poller.lastTimer + 1) job
        (watch.poller.startDelay reason) watch.poller.timing.interval]) := by
  simp [Poller.start, Poller.isPolling, Poller.session?, Poller.cancelTimers,
    Poller.activeTimer, idle]

/-- The kickoffs of a watch that does not poll yet. -/
theorem kickOff_of_idle (backend : Backend State) (idle : watch.poller.phase = .idle)
    (job : String) (kickoff : Kickoff) :
    (∃ runs, kickoff = .observe runs ∧ runs.head?.all (·.isTerminal) = true ∧
        watch.kickOff backend job kickoff = .finished ⟨.ok none, watch.emit (idleNotice job)⟩) ∨
    (∃ newest others, kickoff = .observe (newest :: others) ∧ newest.isTerminal = false ∧
        watch.kickOff backend job kickoff = .running (watch.opened job .observed)) ∨
    (∃ causes, kickoff = .rerun ∧
        (watch.call .rerun job (backend.rerun job)).2 = .error causes ∧
        watch.kickOff backend job kickoff =
          .finished ⟨.error causes, (watch.call .rerun job (backend.rerun job)).1⟩) ∨
    ∃ run, kickoff = .rerun ∧
        (watch.call .rerun job (backend.rerun job)).2 = .ok run ∧
        watch.kickOff backend job kickoff =
          .running (((watch.call .rerun job (backend.rerun job)).1.emit
            (.notice (.rerunRequested job run.uid))).opened job .rerun) := by
  cases kickoff with
  | observe runs =>
      cases runs with
      | nil =>
          left
          refine ⟨[], rfl, rfl, ?_⟩
          simp [kickOff, begin, Poller.observe, idle]
      | cons newest others =>
          cases terminal : newest.isTerminal with
          | true =>
              left
              refine ⟨newest :: others, rfl, by simpa using terminal, ?_⟩
              simp [kickOff, begin, Poller.observe, terminal, idle]
          | false =>
              right; left
              refine ⟨newest, others, rfl, terminal, ?_⟩
              simp only [kickOff, begin, Poller.observe, terminal, start_of_idle idle]
              rfl
  | rerun =>
      right; right
      have stillIdle : (watch.call .rerun job (backend.rerun job)).1.poller.phase = .idle := idle
      cases outcome : (watch.call .rerun job (backend.rerun job)).2 with
      | error causes =>
          left
          refine ⟨causes, rfl, rfl, ?_⟩
          simp only [kickOff, begin, outcome]
      | ok run =>
          right
          refine ⟨run, rfl, rfl, ?_⟩
          simp only [kickOff, begin, outcome, start_of_idle stillIdle]
          rfl

theorem followed_of_finished {kickoff : Kickoff} {ending : Ending State}
    (kicked : watch.kickOff backend job kickoff = .finished ending) (tickFirst : Precedence State)
    (count : Nat) : watch.followed backend tickFirst count job kickoff = .finished ending := by
  rw [followed, kicked]
  cases count <;> rfl

end Watch

end ExportWatch

import ExportWatch.Proofs.Watch.Account
import ExportWatch.Proofs.Watch.Answers
import ExportWatch.Proofs.Watch.Queue

/-! A watch and its poller each know of a timer. While a queue of effects is drained they may
differ: the poller has moved on, and the effects that tell the watch are still to come. When the
queue is empty they know the same one, so a tick always comes in time for the poller, and the
answer to the fetch that it leads to is never overtaken. -/

namespace ExportWatch

open Poller (Operation)

namespace Poller

theorem step_final (poller : Poller) {operation : Operation}
    (noTick : ∀ timer, operation ≠ .tick timer) :
    ∀ effect ∈ (poller.step operation).2, effect.isFinal = true := by
  have move := poller.step_moves operation
  generalize poller.step operation = stepped at move
  rcases stepped with ⟨next, effects⟩
  cases move with
  | opened _ _ =>
      intro effect member
      rcases List.mem_append.mp member with cancels | schedules
      · rcases List.mem_map.mp cancels with ⟨timer, -, rfl⟩
        rfl
      · rw [List.mem_singleton.mp schedules]
        rfl
  | asked _ => exact absurd rfl (noTick _)
  | reported _ _ reports => cases reports <;> simp [Effect.isFinal]
  | ignored _ | settled _ | finished _ _ _ | cancelled _ => simp [Effect.isFinal]

end Poller

variable {State : Type}

namespace Watch

variable {backend : Backend State} {tickFirst : Precedence State} {watch : Watch State}
  {job : String} {kickoff : Kickoff}

def Agrees (watch : Watch State) : Prop :=
  watch.timer.map (·.number) = watch.poller.activeTimer

def Stage.due? (tickFirst : Precedence State) : Stage State → Option Timer
  | .running watch => watch.due? tickFirst
  | .finished _ => none

/-- The watch when the timer has fired. -/
def fired (watch : Watch State) (timer : Timer) : Watch State :=
  { watch with
    now := timer.firing watch.now
    timer := some (timer.after (timer.firing watch.now)) }

/-- The watch with the effects that it has to carry out, by the number of turns before. -/
inductive Applies (backend : Backend State) (tickFirst : Precedence State) (job : String)
    (kickoff : Kickoff) (watch : Watch State) : Nat → Watch State → List Effect → Prop
  | begun {begun : Watch State} {effects : List Effect} :
      watch.begin backend job kickoff = (begun, .ok effects) → begun.poller.phase ≠ .idle →
      Applies backend tickFirst job kickoff watch 0 begun effects
  | ticked {count : Nat} {reached : Watch State} {timer : Timer} :
      watch.followed backend tickFirst count job kickoff = .running reached →
      reached.due? tickFirst = some timer →
      Applies backend tickFirst job kickoff watch (count + 1)
        { reached.fired timer with poller := (reached.poller.tick timer.number).1 }
        (reached.poller.tick timer.number).2
  | cancelled {count : Nat} {reached arrived : Watch State} :
      watch.followed backend tickFirst count job kickoff = .running reached →
      reached.stopped = none → reached.due? tickFirst = none →
      reached.nextCommand = some (.cancel, arrived) →
      Applies backend tickFirst job kickoff watch (count + 1)
        { arrived.note (.command .cancel) with poller := arrived.poller.cancel.1 }
        arrived.poller.cancel.2

/-- While the effects are carried out, the poller is handed the answer to a fetch. -/
inductive Hands (backend : Backend State) :
    Watch State → List Effect → Poller → Operation → Prop
  | now {watch : Watch State} {job : String} {number : Nat} {tail : List Effect} :
      Hands backend watch (.fetch job number :: tail) watch.poller
        (.answer number ((backend.latestRuns job watch.state).1.outcome.mapError Causes.text))
  | later {watch : Watch State} {head : Effect} {tail : List Effect} {poller : Poller}
      {operation : Operation} :
      Hands backend (watch.perform backend head).1 (tail ++ (watch.perform backend head).2) poller
        operation →
      Hands backend watch (head :: tail) poller operation

/-! Without a fetch among the effects nothing is handed to the poller. -/

theorem not_hands_of_final {effects : List Effect} {poller : Poller} {operation : Operation}
    (final : ∀ effect ∈ effects, effect.isFinal = true) :
    ¬ Hands backend watch effects poller operation := by
  intro hands
  induction hands with
  | now => cases final _ List.mem_cons_self
  | later _ induction =>
      apply induction
      intro effect member
      rcases List.mem_append.mp member with waiting | follows
      · exact final effect (List.mem_cons_of_mem _ waiting)
      · exact perform_final _ _ effect follows

theorem begin_final {begun : Watch State} {effects : List Effect}
    (begins : watch.begin backend job kickoff = (begun, .ok effects)) :
    ∀ effect ∈ effects, effect.isFinal = true := by
  cases kickoff with
  | observe runs =>
      cases begins
      change ∀ effect ∈ (watch.poller.step (.observe job runs)).2, _
      exact watch.poller.step_final fun timer => nofun
  | rerun =>
      unfold begin at begins
      dsimp only at begins
      split at begins
      · cases begins
      · cases begins
        change ∀ effect ∈ (watch.poller.step (.start job .rerun)).2, _
        exact watch.poller.step_final fun timer => nofun

/-! What holds of a watch between two turns. A watch that has stopped has no timer, and neither
has its poller. -/

inductive Attentive (job : String) : Stage State → Prop
  | going {watch : Watch State} {session : Session} {timer : Timer} :
      Follows watch job session timer → Attentive job (.running watch)
  | stopping {watch : Watch State} {reason : StopReason} :
      watch.stopped = some reason → watch.Agrees → Attentive job (.running watch)
  | finished {ending : Ending State} : ending.watch.Agrees → Attentive job (.finished ending)

theorem Follows.agrees {session : Session} {timer : Timer}
    (follows : Follows watch job session timer) : watch.Agrees := by
  have active := Poller.activeTimer_eq_some_iff.mpr ⟨session, follows.polling, rfl⟩
  rw [Agrees, follows.armed, active, ← follows.sameTimer]
  rfl

theorem Attentive.agrees {stage : Stage State} (attentive : Attentive job stage) :
    stage.watch.Agrees := by
  cases attentive with
  | going follows => exact follows.agrees
  | stopping _ agrees => exact agrees
  | finished agrees => exact agrees

theorem attentive_kickOff (timing : PollTiming) (state : State)
    (coming : List (Moment × Command)) :
    Attentive job ((Watch.new timing state coming).kickOff backend job kickoff) := by
  have idle : (Watch.new timing state coming).poller.phase = .idle := rfl
  rcases kickOff_of_idle backend idle job kickoff with
    ⟨runs, -, -, kicked⟩ | ⟨newest, others, -, -, kicked⟩ | ⟨causes, -, -, kicked⟩ |
    ⟨run, -, -, kicked⟩
  · rw [kicked]
    exact .finished rfl
  · rw [kicked]
    rcases opened_follows (Watch.new timing state coming) rfl job .observed with
      ⟨session, timer, follows⟩
    exact .going follows
  · rw [kicked]
    exact .finished rfl
  · rw [kicked]
    rcases opened_follows (((Watch.new timing state coming).call .rerun job
      (backend.rerun job)).1.emit (.notice (.rerunRequested job run.uid))) rfl job .rerun with
      ⟨session, timer, follows⟩
    exact .going follows

theorem Follows.obeyed {session : Session} {timer : Timer}
    (follows : Follows watch job session timer) (command : Command) :
    Attentive job (watch.obey backend command) := by
  cases command with
  | cancel =>
      rw [obey_cancel follows]
      exact .stopping rfl rfl
  | quit => exact .finished follows.agrees
  | close => exact .finished follows.agrees

theorem Attentive.turn (attentive : Attentive job (.running watch))
    (tickFirst : Precedence State) : Attentive job (watch.turn backend tickFirst) := by
  cases attentive with
  | going follows =>
      rcases follows.due_or_command tickFirst with due | ⟨notDue, command, arrived, next⟩
      · rcases follows.turn_of_due due with ⟨after, turned, round⟩
        rw [turned]
        cases round with
        | reported _ => exact .going (follows.reported _)
        | ended _ => exact .stopping rfl rfl
      · rw [turn_of_command follows.going notDue next]
        exact (follows.arrived (sameCourse_of_nextCommand next)).obeyed command
  | stopping stopped agrees =>
      rw [turn_of_stopped stopped]
      exact .finished agrees

theorem attentive_followed (timing : PollTiming) (state : State)
    (coming : List (Moment × Command)) (count : Nat) :
    Attentive job
      ((Watch.new timing state coming).followed backend tickFirst count job kickoff) :=
  turns_induction (fun _ attentive => attentive.turn tickFirst)
    (attentive_kickOff timing state coming) count

/-! Where effects are carried out. -/

/-- From the moment the watch polls, each turn that it survives is the carrying out of the
effects of one operation. -/
theorem running_iff_applies {start : Watch State}
    (attentive : ∀ count, Attentive job (start.followed backend tickFirst count job kickoff))
    (count : Nat) (after : Watch State) :
    start.followed backend tickFirst count job kickoff = .running after ↔
      ∃ before effects, Applies backend tickFirst job kickoff start count before effects ∧
        before.carryOut backend effects = after := by
  constructor
  · intro running
    cases count with
    | zero =>
        change start.kickOff backend job kickoff = _ at running
        unfold kickOff at running
        split at running
        · cases running
        · rename_i begun effects begins
          split at running
          · cases running
          · rename_i notIdle
            cases running
            exact ⟨begun, effects, .begun begins notIdle, rfl⟩
    | succ count =>
        have kept := attentive count
        generalize reached : start.followed backend tickFirst count job kickoff = stage at kept
        cases kept with
        | going follows =>
            rw [followed_succ_of_running reached] at running
            rcases follows.due_or_command tickFirst with due | ⟨notDue, command, arrived, next⟩
            · rw [turn_of_due due] at running
              cases running
              exact ⟨_, _, .ticked reached due, rfl⟩
            · rw [turn_of_command follows.going notDue next] at running
              cases command with
              | cancel =>
                  cases running
                  exact ⟨_, _, .cancelled reached follows.going notDue next, rfl⟩
              | quit => cases running
              | close => cases running
        | stopping stopped _ =>
            rw [followed_succ_of_running reached, turn_of_stopped stopped] at running
            cases running
        | finished _ =>
            rw [followed_succ_of_finished reached] at running
            cases running
  · rintro ⟨before, effects, applies, rfl⟩
    cases applies with
    | begun begins notIdle =>
        change start.kickOff backend job kickoff = _
        simp only [kickOff, begins, if_neg notIdle]
    | ticked reached due =>
        rw [followed_succ_of_running reached, turn_of_due due]
        rfl
    | cancelled reached going notDue next =>
        rw [followed_succ_of_running reached, turn_of_command going notDue next]
        rfl

theorem Attentive.follows_of_due {timer : Timer} (attentive : Attentive job (.running watch))
    (due : watch.due? tickFirst = some timer) :
    ∃ session, Follows watch job session timer := by
  cases attentive with
  | @going _ session armed follows =>
      rcases follows.due_or_command tickFirst with known | ⟨notDue, -⟩
      · cases known.symm.trans due
        exact ⟨session, follows⟩
      · cases notDue.symm.trans due
  | stopping stopped _ =>
      simp only [due?, stopped] at due
      cases due

theorem applied_of_hands {start before : Watch State} {count : Nat} {effects : List Effect}
    {poller : Poller} {operation : Operation}
    (attentive : ∀ count, Attentive job (start.followed backend tickFirst count job kickoff))
    (applies : Applies backend tickFirst job kickoff start count before effects)
    (hands : Hands backend before effects poller operation) :
    (poller.step operation).2 ≠ [] := by
  cases applies with
  | begun begins _ => exact absurd hands (not_hands_of_final (begin_final begins))
  | @cancelled count reached arrived _ _ _ _ =>
      have final : ∀ effect ∈ (arrived.poller.step .cancel).2, effect.isFinal = true :=
        arrived.poller.step_final fun timer => nofun
      exact absurd hands (not_hands_of_final final)
  | @ticked count reached timer running due =>
      have kept := attentive count
      rw [running] at kept
      rcases kept.follows_of_due due with ⟨session, follows⟩
      rw [follows.sameTimer, Poller.tick_of_polling follows.polling] at hands
      cases hands with
      | now => exact Poller.applies_iff.mpr ⟨session, follows.polling, follows.fresh⟩
      | later rest => exact absurd rest (not_hands_of_final (perform_final _ _))

end Watch

/-! The calls for the latest runs are counted by the ticks. -/

def Occurrence.asksRuns : Occurrence → Bool
  | .call .latestRuns _ => true
  | _ => false

namespace Watch

variable {backend : Backend State} {tickFirst : Precedence State} {watch : Watch State}
  {job : String} {kickoff : Kickoff}

/-- How often the latest runs have been asked for. -/
def asks (watch : Watch State) : Nat :=
  watch.trace.countP (·.asksRuns)

theorem asks_of_trace {later : Watch State} {occurrences : List Occurrence}
    (trace : later.trace = watch.trace ++ occurrences) :
    later.asks = watch.asks + occurrences.countP (·.asksRuns) := by
  rw [asks, trace, List.countP_append, asks]

theorem Round.asks {session : Session} {timer : Timer} {next : Watch State}
    (round : Round backend watch job session timer next) : next.asks = watch.asks + 1 := by
  cases round with
  | reported _ => exact asks_of_trace (trace_reported _ _ _)
  | ended _ =>
      rw [asks_of_trace (trace_ended _ _ _)]
      rfl

theorem Follows.asks_obey {session : Session} {timer : Timer}
    (follows : Follows watch job session timer) (command : Command) :
    (watch.obey backend command).watch.asks = watch.asks := by
  cases command with
  | cancel =>
      rw [obey_cancel follows]
      exact asks_of_trace (trace_cancelled _)
  | quit => exact asks_of_trace (trace_note _)
  | close => exact asks_of_trace (trace_note _)

theorem asks_kickOff (idle : watch.poller.phase = .idle) :
    (watch.kickOff backend job kickoff).watch.asks = watch.asks := by
  rcases kickOff_of_idle backend idle job kickoff with
    ⟨runs, -, -, kicked⟩ | ⟨newest, others, -, -, kicked⟩ | ⟨causes, -, -, kicked⟩ |
    ⟨run, -, -, kicked⟩
  · rw [kicked]
    exact asks_of_trace (trace_emit _)
  · rw [kicked]
    exact asks_of_trace (trace_opened _)
  · rw [kicked]
    exact asks_of_trace (trace_call _ _)
  · have trace : (watch.kickOff backend job kickoff).watch.trace = watch.trace ++
        [.call .rerun job, .event (.notice (.rerunRequested job run.uid)),
          .event (.started job)] := by
      rw [kicked, Stage.watch, trace_opened, trace_emit, trace_call, List.append_assoc,
        List.append_assoc]
      rfl
    exact asks_of_trace trace

theorem Attentive.asks_turn (attentive : Attentive job (.running watch))
    (tickFirst : Precedence State) :
    (watch.turn backend tickFirst).watch.asks =
      watch.asks + if (watch.due? tickFirst).isSome then 1 else 0 := by
  cases attentive with
  | going follows =>
      rcases follows.due_or_command tickFirst with due | ⟨notDue, command, arrived, next⟩
      · rcases follows.turn_of_due due with ⟨after, turned, round⟩
        rw [turned, due]
        exact round.asks
      · have same := sameCourse_of_nextCommand next
        rw [turn_of_command follows.going notDue next, notDue,
          (follows.arrived same).asks_obey command]
        exact congrArg (fun record => (record.map Entry.occurrence).countP (·.asksRuns))
          same.record
  | stopping stopped _ =>
      rw [turn_of_stopped stopped]
      simp only [due?, stopped]
      rfl

theorem asks_followed (timing : PollTiming) (state : State) (coming : List (Moment × Command))
    (count : Nat) :
    let stage (index : Nat) :=
      (Watch.new timing state coming).followed backend tickFirst index job kickoff
    (stage count).watch.asks =
      (List.range count).countP fun index => ((stage index).due? tickFirst).isSome := by
  intro stage
  induction count with
  | zero => exact asks_kickOff rfl
  | succ count induction =>
      have attentive : Attentive job (stage count) := attentive_followed timing state coming count
      rw [List.range_succ, List.countP_append, ← induction, List.countP_singleton]
      generalize reached : stage count = before at attentive
      cases before with
      | running watch =>
          have turned : stage (count + 1) = watch.turn backend tickFirst :=
            followed_succ_of_running reached
          rw [turned]
          exact attentive.asks_turn tickFirst
      | finished ending =>
          have same : stage (count + 1) = .finished ending := followed_succ_of_finished reached
          rw [same]
          rfl

end Watch

open Watch

/-- However a backend answers and whatever is asked of a watch, after each turn the watch and
its poller know the same timer. A watch that goes on has just drained the effects of one
operation, and each answer that the poller was handed meanwhile was applied. A timer that fires
is the poller's own: the poller asks for a fetch, and the latest runs are asked for once in that
turn and in no other. -/
theorem timers_agree (backend : Backend State) (tickFirst : Precedence State) (job : String)
    (kickoff : Kickoff) (timing : PollTiming) (state : State)
    (coming : List (Moment × Command)) :
    let start := Watch.new timing state coming
    let reached (count : Nat) := start.followed backend tickFirst count job kickoff
    (∀ count, (reached count).watch.Agrees) ∧
      (∀ count after, reached count = .running after ↔
        ∃ before effects, Applies backend tickFirst job kickoff start count before effects ∧
          Drains backend before effects after) ∧
      (∀ count before effects poller operation,
        Applies backend tickFirst job kickoff start count before effects →
        Hands backend before effects poller operation → (poller.step operation).2 ≠ []) ∧
      (∀ count watch timer, reached count = .running watch →
        watch.due? tickFirst = some timer →
        (watch.poller.step (.tick timer.number)).2 =
            [.fetch job (watch.poller.lastFetch + 1)] ∧
          ∃ next, reached (count + 1) = .running next ∧ next.asks = watch.asks + 1) ∧
      ∀ count, (reached count).watch.asks =
        (List.range count).countP fun index => ((reached index).due? tickFirst).isSome := by
  intro start reached
  have attentive (count : Nat) : Attentive job (reached count) :=
    attentive_followed timing state coming count
  refine ⟨fun count => (attentive count).agrees, ?_, ?_, ?_, asks_followed timing state coming⟩
  · intro count after
    simp only [drains_iff]
    exact running_iff_applies attentive count after
  · intro count before effects poller operation applies hands
    exact applied_of_hands attentive applies hands
  · intro count watch timer running due
    have kept := attentive count
    rw [running] at kept
    rcases kept.follows_of_due due with ⟨session, follows⟩
    have ticks : ∃ next, watch.turn backend tickFirst = .running next ∧
        Round backend watch job session timer next := follows.turn_of_due due
    rcases ticks with ⟨next, turned, round⟩
    constructor
    · rw [follows.sameTimer]
      change (watch.poller.tick session.timer).2 = _
      rw [Poller.tick_of_polling follows.polling, follows.sameJob]
    · refine ⟨next, ?_, round.asks⟩
      exact (followed_succ_of_running running).trans turned

end ExportWatch

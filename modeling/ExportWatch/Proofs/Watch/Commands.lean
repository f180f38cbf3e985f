import ExportWatch.Proofs.Watch.Requests
import ExportWatch.Proofs.Watch.Turn

/-! The commands for a watch. Those that were sent with replies come before those from outside, and
the first of them is obeyed as soon as it is there, unless the timer ticks before. A watch obeys one
command only, since each of them ends the polling. -/

namespace ExportWatch.Watch

variable {State : Type}

/-- All commands that have been sent so far or will come, each with the moment from which it is
there. -/
def commands (backend : Backend State) (state : State) (coming : List (Moment × Command))
    (watch : Watch State) : List (Moment × Command) :=
  backend.sent state watch.record ++ coming

/-- A tick goes before the first command. A watch takes a command when it is there, and not before
now. -/
def TickNext (tickFirst : Precedence State) (watch : Watch State)
    (commands : List (Moment × Command)) (tick : Moment) : Prop :=
  ∀ first ∈ commands.head?, tick < max watch.now first.1 ∨
    tick = max watch.now first.1 ∧ tickFirst watch = true

section Advances

variable (job : String) (tickFirst : Precedence State) (commands : List (Moment × Command))
  (watch : Watch State)

/-- What one turn makes of a watch. Once it has stopped it is over. Before that either the timer
ticks and the latest runs are asked for, or the first command is obeyed. -/
inductive Advances : Stage State → Prop
  | finished {reason : StopReason} :
      watch.stopped = some reason → Advances (.finished ⟨.ok (some reason), watch⟩)
  | ticked {timer : Timer} {next : Watch State} {others : List Entry} :
      watch.stopped = none → watch.timer = some timer →
      TickNext tickFirst watch commands (timer.firing watch.now) →
      next.record =
        watch.record ++ ⟨timer.firing watch.now, .call .latestRuns job⟩ :: others →
      Advances (.running next)
  | cancelled {timer : Timer} {next : Watch State} {moment : Moment}
      {others : List (Moment × Command)} :
      watch.stopped = none → watch.timer = some timer →
      ¬ TickNext tickFirst watch commands (timer.firing watch.now) →
      commands = (moment, .cancel) :: others → next.stopped = some .cancelled →
      next.record = watch.record ++ [⟨max watch.now moment, .command .cancel⟩,
        ⟨max watch.now moment, .event (.stopped job .cancelled)⟩] →
      Advances (.running next)
  | left {timer : Timer} {last : Watch State} {moment : Moment} {command : Command}
      {others : List (Moment × Command)} :
      watch.stopped = none → watch.timer = some timer →
      ¬ TickNext tickFirst watch commands (timer.firing watch.now) →
      commands = (moment, command) :: others → command ≠ .cancel →
      last.record = watch.record ++ [⟨max watch.now moment, .command command⟩] →
      Advances (.finished ⟨.ok none, last⟩)

end Advances

/-- What is on the record stays there. -/
theorem Advances.continues {job : String} {tickFirst : Precedence State}
    {commands : List (Moment × Command)} {watch : Watch State} {after : Stage State}
    (advances : watch.Advances job tickFirst commands after) :
    watch.record <+: after.watch.record := by
  cases advances with
  | finished _ => exact List.prefix_refl _
  | ticked _ _ _ record => exact record ▸ List.prefix_append _ _
  | cancelled _ _ _ _ _ record => exact record ▸ List.prefix_append _ _
  | left _ _ _ _ _ record => exact record ▸ List.prefix_append _ _

variable {backend : Backend State} {state : State} {coming : List (Moment × Command)}
  {watch : Watch State} {job : String} {session : Session} {timer : Timer}

/-- Nothing was taken from the commands, and what was sent is there. -/
structure Untaken (backend : Backend State) (state : State) (coming : List (Moment × Command))
    (watch : Watch State) : Prop where
  sameState : (backend.served state watch.record).2 = watch.state
  past : ∀ first ∈ backend.sent state watch.record, first.1 ≤ watch.now
  waiting : watch.waiting = (backend.sent state watch.record).map Prod.snd
  coming : watch.coming = coming

theorem commands_note (backend : Backend State) (state : State)
    (coming : List (Moment × Command)) (watch : Watch State) {occurrence : Occurrence}
    (notCall : occurrence.isCall = false) :
    (watch.note occurrence).commands backend state coming =
      watch.commands backend state coming := by
  rw [commands, commands, Backend.sent, Backend.requests, served_note backend state watch notCall]
  rfl

theorem untaken_new (timing : PollTiming) :
    Untaken backend state coming (Watch.new timing state coming) :=
  ⟨rfl, nofun, rfl, rfl⟩

theorem tickGoesFirst_iff {tickFirst : Precedence State} {moment : Moment} :
    watch.tickGoesFirst tickFirst timer moment = true ↔
      timer.firing watch.now < moment ∨
        timer.firing watch.now = moment ∧ tickFirst watch = true := by
  rw [tickGoesFirst, Bool.or_eq_true, Bool.and_eq_true, decide_eq_true_iff, decide_eq_true_iff]

namespace Untaken

theorem mono {next : Watch State} (untaken : Untaken backend state coming watch)
    (record : next.record = watch.record) (sameState : next.state = watch.state)
    (waiting : next.waiting = watch.waiting) (sameComing : next.coming = watch.coming)
    (now : watch.now ≤ next.now) : Untaken backend state coming next := by
  constructor
  · rw [record, sameState]
    exact untaken.sameState
  · rw [record]
    exact fun first member => (untaken.past first member).trans now
  · rw [waiting, record]
    exact untaken.waiting
  · rw [sameComing]
    exact untaken.coming

theorem emit (untaken : Untaken backend state coming watch) (event : WatchEvent) :
    Untaken backend state coming (watch.emit event) := by
  have same := served_emit backend state watch event
  constructor
  · rw [same]
    exact untaken.sameState
  · rw [Backend.sent, Backend.requests, same]
    exact untaken.past
  · rw [Backend.sent, Backend.requests, same]
    exact untaken.waiting
  · exact untaken.coming

theorem call (untaken : Untaken backend state coming watch) {α : Type} {call : Call}
    {request : State → Reply α × State}
    (serves : backend.serve job watch.state call = ((request watch.state).1.delay,
      (request watch.state).1.commands, (request watch.state).2)) :
    Untaken backend state coming (watch.call call job request).1 := by
  have served := served_call untaken.sameState serves
  have sent : backend.sent state (watch.call call job request).1.record =
      backend.sent state watch.record ++ (request watch.state).1.commands.map
        ((watch.call call job request).1.now, ·) := by
    rw [Backend.sent, Backend.requests, served, List.flatMap_append, List.flatMap_singleton]
    rfl
  constructor
  · rw [served]
  · rw [sent]
    intro first member
    rcases List.mem_append.mp member with before | new
    · exact (untaken.past first before).trans (Nat.le_add_right _ _)
    · rcases List.mem_map.mp new with ⟨command, -, rfl⟩
      exact Nat.le_refl _
  · rw [sent, List.map_append, List.map_map, ← untaken.waiting]
    exact congrArg (watch.waiting ++ ·) (List.map_id _).symm
  · exact untaken.coming

theorem askRuns (untaken : Untaken backend state coming watch) (timer : Timer) (job : String) :
    Untaken backend state coming (watch.askRuns backend timer job).1 := by
  have fired : Untaken backend state coming
      { watch with
        now := timer.firing watch.now
        timer := some (timer.after (timer.firing watch.now)) } :=
    untaken.mono rfl rfl rfl rfl (Nat.le_max_left _ _)
  exact fired.call rfl

theorem reported (untaken : Untaken backend state coming watch) (timer : Timer) (job : String)
    (poller : Poller) (event : WatchEvent) :
    Untaken backend state coming
      ({ (watch.askRuns backend timer job).1 with poller := poller }.emit event) := by
  have answered : Untaken backend state coming
      { (watch.askRuns backend timer job).1 with poller := poller } :=
    (untaken.askRuns timer job).mono rfl rfl rfl rfl (Nat.le_refl _)
  exact answered.emit event

theorem opened (untaken : Untaken backend state coming watch) (job : String)
    (reason : StartReason) : Untaken backend state coming (watch.opened job reason) := by
  have armed : Untaken backend state coming
      ({ watch with poller := watch.poller.openSession job }.arm (watch.poller.lastTimer + 1)
        (watch.poller.startDelay reason) watch.poller.timing.interval) :=
    untaken.mono rfl rfl rfl rfl (Nat.le_refl _)
  exact armed.emit _

/-- The command that a watch takes next is the first one. -/
theorem nextCommand_eq (untaken : Untaken backend state coming watch) :
    watch.nextCommand.map (fun next => (next.2.now, next.1)) =
      (watch.commands backend state coming).head?.map fun first =>
        (max watch.now first.1, first.2) := by
  unfold nextCommand commands
  rw [untaken.waiting, untaken.coming]
  have past := untaken.past
  generalize backend.sent state watch.record = sent at past
  cases sent with
  | nil => cases coming <;> rfl
  | cons first others =>
      have there := past first List.mem_cons_self
      rw [List.cons_append, List.head?_cons, Option.map_some, Nat.max_eq_left there]
      rfl

theorem exists_of_nextCommand {command : Command} {arrived : Watch State}
    (untaken : Untaken backend state coming watch)
    (next : watch.nextCommand = some (command, arrived)) :
    ∃ moment others, watch.commands backend state coming = (moment, command) :: others ∧
      arrived.now = max watch.now moment := by
  have first := untaken.nextCommand_eq
  rw [next] at first
  cases commands : watch.commands backend state coming with
  | nil =>
      rw [commands] at first
      cases first
  | cons head others =>
      rw [commands] at first
      rcases Prod.mk.inj (Option.some.inj first) with ⟨now, rfl⟩
      exact ⟨head.1, others, rfl, now⟩

/-- The timer fires exactly if its tick goes before the first command. -/
theorem tickNext_iff (untaken : Untaken backend state coming watch)
    (follows : Follows watch job session timer) (tickFirst : Precedence State) :
    TickNext tickFirst watch (watch.commands backend state coming) (timer.firing watch.now) ↔
      watch.due? tickFirst = some timer := by
  cases next : watch.nextCommand with
  | none =>
      have none := untaken.nextCommand_eq
      rw [next] at none
      have empty := Option.map_eq_none_iff.mp none.symm
      simp [TickNext, empty, due?, follows.going, next, follows.armed]
  | some arrival =>
      rcases arrival with ⟨command, arrived⟩
      rcases untaken.exists_of_nextCommand next with ⟨moment, others, isFirst, now⟩
      simp only [due?, follows.going, next, follows.armed, Option.filter_eq_some_iff, true_and,
        tickGoesFirst_iff, now, TickNext, isFirst, List.head?_cons, Option.mem_def,
        Option.some.injEq, forall_eq']

end Untaken

theorem Round.record {next : Watch State} (round : Round backend watch job session timer next) :
    ∃ others, next.record =
      watch.record ++ ⟨timer.firing watch.now, .call .latestRuns job⟩ :: others := by
  have asked : watch.record ++ [⟨timer.firing watch.now, .call .latestRuns job⟩] <+:
      next.record := by
    cases round with
    | reported _ => exact List.prefix_append _ _
    | ended _ =>
        exact ((List.prefix_append _ _).trans (List.prefix_append _ _)).trans
          (List.prefix_append _ _)
  rcases asked with ⟨others, whole⟩
  rw [List.append_assoc] at whole
  exact ⟨others, whole.symm⟩

/-- A watch that polls, and from which no command was taken, advances. -/
theorem Untaken.advances (untaken : Untaken backend state coming watch)
    (follows : Follows watch job session timer) (tickFirst : Precedence State) :
    Advances job tickFirst (watch.commands backend state coming) watch
      (watch.turn backend tickFirst) := by
  rcases follows.due_or_command tickFirst with due | ⟨notDue, command, arrived, next⟩
  · have ticks : ∃ after, watch.turn backend tickFirst = .running after ∧
        Round backend watch job session timer after := follows.turn_of_due due
    rcases ticks with ⟨after, turned, round⟩
    rcases round.record with ⟨others, record⟩
    rw [turned]
    exact .ticked follows.going follows.armed ((untaken.tickNext_iff follows tickFirst).mpr due)
      record
  · have same := sameCourse_of_nextCommand next
    rcases untaken.exists_of_nextCommand next with ⟨moment, others, isFirst, now⟩
    have notNext : ¬ TickNext tickFirst watch (watch.commands backend state coming)
        (timer.firing watch.now) := by
      rw [untaken.tickNext_iff follows, notDue]
      exact Option.some_ne_none timer ∘ Eq.symm
    have noted : (arrived.note (.command command)).record =
        watch.record ++ [⟨max watch.now moment, .command command⟩] := by
      rw [note, same.record, now]
    rw [turn_of_command follows.going notDue next]
    cases command with
    | cancel =>
        rw [obey_cancel (follows.arrived same)]
        refine .cancelled follows.going follows.armed notNext isFirst rfl ?_
        change (arrived.note (.command .cancel)).record ++ [⟨arrived.now, _⟩] = _
        rw [noted, now, List.append_assoc]
        rfl
    | quit => exact .left follows.going follows.armed notNext isFirst (by decide) noted
    | close => exact .left follows.going follows.armed notNext isFirst (by decide) noted

end ExportWatch.Watch

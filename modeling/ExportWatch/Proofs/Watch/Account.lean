import ExportWatch.Proofs.Watch.Commands

/-! All that a watch calls for, is told and reports, in order and without the moments.
It opens, it asks for the runs any number of times, and it closes in one of three
ways. -/

namespace ExportWatch

open Poller (Ends)

variable {State : Type}

namespace Watch

def trace (watch : Watch State) : List Occurrence :=
  watch.record.map (·.occurrence)

end Watch

section Account

variable (backend : Backend State) (job : String)

/-- Polling is opened for a job with a run in progress, or for a run that was asked
for. -/
inductive Opening (state : State) : Watch.Kickoff → List Occurrence → State → Prop
  | observed {newest : Run} {others : List Run} :
      newest.isTerminal = false →
      Opening state (.observe (newest :: others)) [.event (.started job)] state
  | rerun {run : Run} :
      (backend.rerun job state).1.outcome = .ok run →
      Opening state .rerun
        [.call .rerun job, .event (.notice (.rerunRequested job run.uid)), .event (.started job)]
        (backend.rerun job state).2

/-- Each call for the latest runs is followed by the report on its answer. -/
inductive Rounds (opened : State) : List Occurrence → State → Prop
  | none : Rounds opened [] opened
  | next {occurrences : List Occurrence} {state : State} {event : WatchEvent} :
      Rounds opened occurrences state →
      Reported (backend.latestRuns job state).1.outcome event →
      Rounds opened (occurrences ++ [.call .latestRuns job, .event event])
        (backend.latestRuns job state).2

inductive Closing (state : State) : List Occurrence → Option StopReason → Prop
  | left {command : Command} :
      command ≠ .cancel → Closing state [.command command] none
  | cancelled :
      Closing state [.command .cancel, .event (.stopped job .cancelled)] (some .cancelled)
  | ended {reason : StopReason} :
      Ends (backend.latestRuns job state).1.outcome reason →
      Closing state
        [.call .latestRuns job, .event (.stopped job reason), .call .completedRuns job,
          .event (Watch.reloadReport job
            (backend.completedRuns job (backend.latestRuns job state).2).1.outcome)]
        (some reason)

/-- What a watch leaves behind, with its outcome once that is certain. -/
inductive Account (kickoff : Watch.Kickoff) (state : State) :
    List Occurrence → Option (Except Causes (Option StopReason)) → Prop
  | idle {runs : List Run} :
      kickoff = .observe runs → runs.head?.all (·.isTerminal) = true →
      Account kickoff state [.event (Watch.idleNotice job)] (some (.ok none))
  | refused {causes : Causes} :
      kickoff = .rerun → (backend.rerun job state).1.outcome = .error causes →
      Account kickoff state [.call .rerun job] (some (.error causes))
  | going {opening rounds : List Occurrence} {opened reached : State} :
      Opening backend job state kickoff opening opened →
      Rounds backend job opened rounds reached →
      Account kickoff state (opening ++ rounds) none
  | finished {opening rounds closing : List Occurrence} {opened reached : State}
      {reason : Option StopReason} :
      Opening backend job state kickoff opening opened →
      Rounds backend job opened rounds reached →
      Closing backend job reached closing reason →
      Account kickoff state (opening ++ rounds ++ closing) (some (.ok reason))

end Account

/-! Only a closing holds a command, a stop or a call for the completed runs. -/

def Occurrence.isMiddle : Occurrence → Bool
  | .command _ => false
  | .event (.stopped _ _) => false
  | .call .completedRuns _ => false
  | _ => true

section Middle

variable {backend : Backend State} {job : String} {kickoff : Watch.Kickoff}
variable {state opened : State} {occurrences : List Occurrence}

theorem Reported.middle {outcome : Except Causes (List Run)} {event : WatchEvent}
    (reported : Reported outcome event) : (Occurrence.event event).isMiddle = true := by
  cases reported <;> rfl

theorem Opening.middle (opens : Opening backend job state kickoff occurrences opened) :
    ∀ occurrence ∈ occurrences, occurrence.isMiddle = true := by
  cases opens <;> simp [Occurrence.isMiddle]

theorem Rounds.middle (rounds : Rounds backend job opened occurrences state) :
    ∀ occurrence ∈ occurrences, occurrence.isMiddle = true := by
  induction rounds with
  | none => simp
  | next _ reported induction =>
      intro occurrence member
      rcases List.mem_append.mp member with earlier | last
      · exact induction occurrence earlier
      · simp only [List.mem_cons, List.not_mem_nil, or_false] at last
        rcases last with rfl | rfl
        · rfl
        · exact reported.middle

end Middle

namespace Watch

variable {backend : Backend State} {watch : Watch State} {job : String}

/-- The outcome of a watch is certain when it has stopped. -/
def Stage.verdict : Stage State → Option (Except Causes (Option StopReason))
  | .running watch => watch.stopped.map fun reason => .ok (some reason)
  | .finished ending => some ending.outcome

theorem Stage.eq_running {stage : Stage State} (unfinished : stage.ending? = none) :
    stage = .running stage.watch := by
  cases stage with
  | running watch => rfl
  | finished ending => cases unfinished

@[simp] theorem trace_note (occurrence : Occurrence) :
    (watch.note occurrence).trace = watch.trace ++ [occurrence] := by
  simp [trace, note]

@[simp] theorem trace_emit (event : WatchEvent) :
    (watch.emit event).trace = watch.trace ++ [.event event] :=
  trace_note _

@[simp] theorem trace_call {α : Type} (call : Call) (request : State → Reply α × State) :
    (watch.call call job request).1.trace = watch.trace ++ [.call call job] :=
  trace_note _

@[simp] theorem trace_halted (poller : Poller) (reason : StopReason) :
    (watch.halted poller job reason).trace = watch.trace ++ [.event (.stopped job reason)] :=
  trace_note _

@[simp] theorem trace_opened (reason : StartReason) :
    (watch.opened job reason).trace = watch.trace ++ [.event (.started job)] :=
  trace_note _

@[simp] theorem trace_askRuns (timer : Timer) :
    (watch.askRuns backend timer job).1.trace = watch.trace ++ [.call .latestRuns job] :=
  trace_note _

theorem trace_refresh :
    (watch.refresh backend job).trace =
      watch.trace ++ [.call .completedRuns job,
        .event (reloadReport job (backend.completedRuns job watch.state).1.outcome)] := by
  change ((watch.call .completedRuns job (backend.completedRuns job)).1.emit _).trace = _
  rw [trace_emit, trace_call, List.append_assoc]
  rfl

theorem trace_reported (timer : Timer) (poller : Poller) (event : WatchEvent) :
    ({ (watch.askRuns backend timer job).1 with poller := poller }.emit event).trace =
      watch.trace ++ [.call .latestRuns job, .event event] := by
  rw [trace_emit]
  change (watch.askRuns backend timer job).1.trace ++ _ = _
  rw [trace_askRuns, List.append_assoc]
  rfl

theorem trace_ended (timer : Timer) (poller : Poller) (reason : StopReason) :
    (((watch.askRuns backend timer job).1.halted poller job reason).refresh backend job).trace =
      watch.trace ++ [.call .latestRuns job, .event (.stopped job reason),
        .call .completedRuns job,
        .event (reloadReport job
          (backend.completedRuns job (backend.latestRuns job watch.state).2).1.outcome)] := by
  rw [trace_refresh, trace_halted, trace_askRuns]
  simp only [List.append_assoc, List.cons_append, List.nil_append]
  rfl

theorem trace_cancelled (poller : Poller) :
    ((watch.note (.command .cancel)).halted poller job .cancelled).trace =
      watch.trace ++ [.command .cancel, .event (.stopped job .cancelled)] := by
  rw [trace_halted, trace_note, List.append_assoc]
  rfl

/-! The account is kept from turn to turn. -/

/-- A command that was taken is the first one. -/
def Drawn (backend : Backend State) (state : State) (coming : List (Moment × Command))
    (watch : Watch State) : Prop :=
  ∀ command, .command command ∈ watch.trace → ∃ moment others,
    watch.commands backend state coming = (moment, command) :: others

section Drawn

variable {state : State} {coming : List (Moment × Command)} {head : List Occurrence}

theorem drawn_of_middle (middle : ∀ occurrence ∈ watch.trace, occurrence.isMiddle = true) :
    Drawn backend state coming watch := by
  intro command member
  cases middle _ member

theorem drawn_of_closing {closing : List Occurrence} (whole : watch.trace = head ++ closing)
    (middle : ∀ occurrence ∈ head, occurrence.isMiddle = true)
    (first : ∀ command, .command command ∈ closing → ∃ moment others,
      watch.commands backend state coming = (moment, command) :: others) :
    Drawn backend state coming watch := by
  intro command member
  rw [whole] at member
  rcases List.mem_append.mp member with early | last
  · cases middle _ early
  · exact first command last

theorem Untaken.drawn {command : Command} {arrived : Watch State}
    (untaken : Untaken backend state coming watch)
    (middle : ∀ occurrence ∈ watch.trace, occurrence.isMiddle = true)
    (next : watch.nextCommand = some (command, arrived)) :
    Drawn backend state coming (arrived.note (.command command)) := by
  have same := sameCourse_of_nextCommand next
  have sameTrace : arrived.trace = watch.trace := congrArg (List.map _) same.record
  refine drawn_of_closing (trace_note _) (sameTrace ▸ middle) ?_
  intro taken member
  rcases untaken.exists_of_nextCommand next with ⟨moment, others, isFirst, -⟩
  have unchanged : (arrived.note (.command command)).commands backend state coming =
      arrived.commands backend state coming := commands_note _ _ _ _ rfl
  rw [Occurrence.command.inj (List.mem_singleton.mp member), unchanged, commands, same.record]
  exact ⟨moment, others, isFirst⟩

theorem Drawn.halted (drawn : Drawn backend state coming watch) (poller : Poller) (job : String)
    (reason : StopReason) : Drawn backend state coming (watch.halted poller job reason) := by
  intro command member
  rw [trace_halted, List.mem_append] at member
  have same : (watch.halted poller job reason).commands backend state coming =
      watch.commands backend state coming := commands_note _ _ _ _ rfl
  rw [same]
  rcases member with before | stopped
  · exact drawn command before
  · cases List.mem_singleton.mp stopped

end Drawn

section Keeping

variable (backend job) (kickoff : Kickoff) (state : State) (coming : List (Moment × Command))

inductive Kept : Stage State → Prop
  | going {watch : Watch State} {session : Session} {timer : Timer}
      {opening rounds : List Occurrence} {opened : State} :
      Follows watch job session timer → Untaken backend state coming watch →
      Opening backend job state kickoff opening opened →
      Rounds backend job opened rounds watch.state →
      watch.trace = opening ++ rounds →
      Kept (.running watch)
  | stopping {watch : Watch State} {reason : StopReason} :
      watch.stopped = some reason → Drawn backend state coming watch →
      Account backend job kickoff state watch.trace (some (.ok (some reason))) →
      Kept (.running watch)
  | finished {ending : Ending State} :
      Drawn backend state coming ending.watch →
      Account backend job kickoff state ending.watch.trace (some ending.outcome) →
      Kept (.finished ending)

variable {backend job kickoff state coming}

theorem Kept.account {stage : Stage State} (kept : Kept backend job kickoff state coming stage) :
    Account backend job kickoff state stage.watch.trace stage.verdict := by
  cases kept with
  | going follows _ opens rounds whole =>
      rw [Stage.verdict, follows.going, Stage.watch, whole]
      exact .going opens rounds
  | stopping stopped _ account =>
      rw [Stage.verdict, stopped]
      exact account
  | finished _ account => exact account

theorem Kept.drawn {stage : Stage State} (kept : Kept backend job kickoff state coming stage) :
    Drawn backend state coming stage.watch := by
  cases kept with
  | going _ _ opens rounds whole =>
      refine drawn_of_middle ?_
      rw [Stage.watch, whole]
      exact List.forall_mem_append.mpr ⟨opens.middle, rounds.middle⟩
  | stopping _ drawn _ => exact drawn
  | finished drawn _ => exact drawn

theorem kept_kickOff (timing : PollTiming) (coming : List (Moment × Command)) :
    Kept backend job kickoff state coming
      ((Watch.new timing state coming).kickOff backend job kickoff) := by
  have idle : (Watch.new timing state coming).poller.phase = .idle := rfl
  have untaken : Untaken backend state coming (Watch.new timing state coming) := untaken_new timing
  rcases kickOff_of_idle backend idle job kickoff with
    ⟨runs, observed, terminal, kicked⟩ | ⟨newest, others, rfl, running, kicked⟩ |
    ⟨causes, rerun, outcome, kicked⟩ | ⟨run, rfl, outcome, kicked⟩
  · rw [kicked]
    refine .finished ?_ (.idle observed terminal)
    exact drawn_of_middle (List.forall_mem_singleton.mpr rfl)
  · rw [kicked]
    rcases opened_follows (Watch.new timing state coming) rfl job .observed with
      ⟨session, timer, follows⟩
    exact .going follows (untaken.opened _ _) (.observed running) .none rfl
  · rw [kicked]
    refine .finished ?_ (.refused rerun outcome)
    exact drawn_of_middle (List.forall_mem_singleton.mpr rfl)
  · have called : Untaken backend state coming
        ((Watch.new timing state coming).call .rerun job (backend.rerun job)).1 := untaken.call rfl
    rw [kicked]
    rcases opened_follows (((Watch.new timing state coming).call .rerun job
      (backend.rerun job)).1.emit (.notice (.rerunRequested job run.uid))) rfl job .rerun with
      ⟨session, timer, follows⟩
    exact .going follows ((called.emit _).opened _ _) (.rerun outcome) .none rfl

theorem Kept.turn {watch : Watch State}
    (kept : Kept backend job kickoff state coming (.running watch)) (tickFirst : Precedence State) :
    Kept backend job kickoff state coming (watch.turn backend tickFirst) := by
  cases kept with
  | going follows untaken opens rounds whole =>
      have middle := List.forall_mem_append.mpr ⟨opens.middle, rounds.middle⟩
      rcases turn_of_follows backend follows tickFirst with
        ⟨next, turned, round⟩ | ⟨command, arrived, next, turned⟩
      · rw [turned]
        cases round with
        | reported reported =>
            refine .going (follows.reported _) (untaken.reported _ _ _ _) opens
              (rounds.next reported) ?_
            rw [trace_reported, whole, List.append_assoc]
        | ended ends =>
            refine .stopping rfl ?_ ?_
            · refine drawn_of_closing (trace_ended _ _ _) (whole ▸ middle) ?_
              simp
            · rw [trace_ended, whole]
              exact .finished opens rounds (.ended ends)
      · have same := sameCourse_of_nextCommand next
        have arrivedWhole : arrived.trace = watch.trace := congrArg (List.map _) same.record
        have noted : Drawn backend state coming (arrived.note (.command command)) :=
          untaken.drawn (whole ▸ middle) next
        rw [← same.state] at rounds
        rw [← arrivedWhole] at whole
        rw [turned]
        cases command with
        | cancel =>
            rw [obey_cancel (follows.arrived same)]
            refine .stopping rfl ?_ ?_
            · exact noted.halted _ _ _
            · rw [trace_cancelled, whole]
              exact .finished opens rounds .cancelled
        | quit =>
            refine .finished noted ?_
            rw [trace_note, whole]
            exact .finished opens rounds (.left (by decide))
        | close =>
            refine .finished noted ?_
            rw [trace_note, whole]
            exact .finished opens rounds (.left (by decide))
  | stopping stopped drawn account =>
      rw [turn_of_stopped stopped]
      exact .finished drawn account

/-- A watch that is not over advances. -/
theorem Kept.advances {watch : Watch State}
    (kept : Kept backend job kickoff state coming (.running watch)) (tickFirst : Precedence State) :
    Advances job tickFirst (watch.commands backend state coming) watch
      (watch.turn backend tickFirst) := by
  cases kept with
  | going follows untaken _ _ _ => exact untaken.advances follows tickFirst
  | stopping stopped _ _ =>
      rw [turn_of_stopped stopped]
      exact .finished stopped

theorem kept_followed (timing : PollTiming) (coming : List (Moment × Command))
    (tickFirst : Precedence State) (count : Nat) :
    Kept backend job kickoff state coming
      ((Watch.new timing state coming).followed backend tickFirst count job kickoff) :=
  turns_induction (fun _ kept => kept.turn tickFirst) (kept_kickOff timing coming) count

theorem followed_continues (timing : PollTiming) (coming : List (Moment × Command))
    (tickFirst : Precedence State) (count : Nat) :
    let reached (count : Nat) :=
      (Watch.new timing state coming).followed backend tickFirst count job kickoff
    (reached count).watch.record <+: (reached (count + 1)).watch.record := by
  intro reached
  cases stage : reached count with
  | running watch =>
      have kept : Kept backend job kickoff state coming (reached count) :=
        kept_followed timing coming tickFirst count
      rw [stage] at kept
      have turned : reached (count + 1) = watch.turn backend tickFirst :=
        followed_succ_of_running stage
      rw [turned]
      exact (kept.advances tickFirst).continues
  | finished ending =>
      have same : reached (count + 1) = .finished ending := followed_succ_of_finished stage
      exact same ▸ List.prefix_refl _

end Keeping

end Watch

/-! What the account comes to. -/

/-- Whether an occurrence tells of an answer about the latest runs. -/
def Occurrence.isReport : Occurrence → Bool
  | .event (.runUpdated _) => true
  | .event (.fetchFailed _) => true
  | .event (.stopped _ reason) => reason != .cancelled
  | _ => false

open Occurrence

variable {backend : Backend State} {job : String} {kickoff : Watch.Kickoff}
variable {state opened : State} {occurrences : List Occurrence}

theorem Opening.reports (opens : Opening backend job state kickoff occurrences opened) :
    occurrences.countP isReport = occurrences.count (.call .latestRuns job) := by
  cases opens <;> simp [isReport]

theorem Rounds.reports (rounds : Rounds backend job opened occurrences state) :
    occurrences.countP isReport = occurrences.count (.call .latestRuns job) := by
  induction rounds with
  | none => rfl
  | next _ reported induction =>
      rw [List.countP_append, List.count_append, induction]
      generalize (backend.latestRuns job _).1.outcome = outcome at reported
      cases reported <;> simp [isReport]

/-- The counts of an account, and what its outcome says of it. -/
structure Tally (job : String) (trace : List Occurrence)
    (verdict : Option (Except Causes (Option StopReason))) : Prop where
  reports : trace.countP isReport = trace.count (.call .latestRuns job)
  stopped_iff : ∀ reason,
    verdict = some (.ok (some reason)) ↔ .event (.stopped job reason) ∈ trace
  left_iff : .event (.started job) ∈ trace →
    (verdict = some (.ok none) ↔ ∃ command, command ≠ .cancel ∧ .command command ∈ trace)
  completed_iff : .call .completedRuns job ∈ trace ↔
    ∃ reason, reason ≠ .cancelled ∧ .event (.stopped job reason) ∈ trace
  completed_last : .call .completedRuns job ∈ trace →
    ∃ before event, trace = before ++ [.call .completedRuns job, .event event] ∧
      .call .completedRuns job ∉ before
  cancelled_last : .command .cancel ∈ trace →
    ∃ before, trace = before ++ [.command .cancel, .event (.stopped job .cancelled)] ∧
      verdict = some (.ok (some .cancelled))

/-- A closing makes the tally, whatever comes before it. -/
theorem Tally.after_middle {verdict : Option (Except Causes (Option StopReason))}
    {head closing : List Occurrence}
    (middle : ∀ occurrence ∈ head, occurrence.isMiddle = true)
    (reports : head.countP isReport = head.count (.call .latestRuns job))
    (left : verdict = some (.ok none) ↔
      ∃ command, command ≠ .cancel ∧ .command command ∈ closing)
    (tally : Tally job closing verdict) : Tally job (head ++ closing) verdict := by
  have mem_iff (occurrence : Occurrence) (notMiddle : occurrence.isMiddle = false) :
      occurrence ∈ head ++ closing ↔ occurrence ∈ closing := by
    rw [List.mem_append, or_iff_right]
    intro member
    rw [middle occurrence member] at notMiddle
    cases notMiddle
  refine ⟨?_, ?_, ?_, ?_, ?_, ?_⟩
  · rw [List.countP_append, List.count_append, reports, tally.reports]
  · intro reason
    rw [mem_iff _ rfl]
    exact tally.stopped_iff reason
  · intro _
    simp only [mem_iff (.command _) rfl]
    exact left
  · simp only [mem_iff (.call .completedRuns job) rfl, mem_iff (.event (.stopped job _)) rfl]
    exact tally.completed_iff
  · rw [mem_iff _ rfl]
    intro member
    rcases tally.completed_last member with ⟨before, event, rfl, once⟩
    refine ⟨head ++ before, event, (List.append_assoc _ _ _).symm, ?_⟩
    rw [List.mem_append, not_or]
    refine ⟨?_, once⟩
    intro early
    cases middle _ early
  · rw [mem_iff _ rfl]
    intro member
    rcases tally.cancelled_last member with ⟨before, rfl, cancelled⟩
    exact ⟨head ++ before, (List.append_assoc _ _ _).symm, cancelled⟩

theorem Closing.left_iff {reason : Option StopReason}
    (closes : Closing backend job state occurrences reason) :
    reason = none ↔ ∃ command, command ≠ .cancel ∧ .command command ∈ occurrences := by
  cases closes with
  | left notCancel => simpa using notCancel
  | cancelled => simp
  | ended _ => simp

theorem Closing.tally {reason : Option StopReason}
    (closes : Closing backend job state occurrences reason) :
    Tally job occurrences (some (.ok reason)) := by
  cases closes with
  | left notCancel =>
      refine ⟨by simp [isReport], by simp, by simp, by simp, by simp, ?_⟩
      intro member
      simp at member
      exact absurd member.symm notCancel
  | cancelled =>
      refine ⟨by simp [isReport], by simp [eq_comm], by simp, by simp, by simp, ?_⟩
      intro _
      exact ⟨[], rfl, rfl⟩
  | ended ends =>
      have known := ends.not_cancelled
      generalize (backend.completedRuns job _).1.outcome = outcome
      refine ⟨?_, ?_, by simp, ?_, ?_, by simp⟩
      · cases outcome <;> simp [List.countP_cons, isReport, Watch.reloadReport, known]
      · cases outcome <;> simp [Watch.reloadReport, eq_comm]
      · cases outcome <;> simp [Watch.reloadReport, known]
      · intro _
        exact ⟨[_, _], _, rfl, by simp⟩

theorem Account.tally {verdict : Option (Except Causes (Option StopReason))}
    (account : Account backend job kickoff state occurrences verdict) :
    Tally job occurrences verdict := by
  cases account with
  | idle _ _ => constructor <;> simp [Watch.idleNotice, isReport]
  | refused _ _ => constructor <;> simp [isReport]
  | @going opening rounded _ _ opens rounds =>
      have unfinished : Tally job [] none := by constructor <;> simp
      rw [← List.append_nil (opening ++ rounded)]
      refine unfinished.after_middle ?_ ?_ (by simp)
      · exact List.forall_mem_append.mpr ⟨opens.middle, rounds.middle⟩
      · rw [List.countP_append, List.count_append, opens.reports, rounds.reports]
  | finished opens rounds closes =>
      refine closes.tally.after_middle ?_ ?_ (by simpa using closes.left_iff)
      · exact List.forall_mem_append.mpr ⟨opens.middle, rounds.middle⟩
      · rw [List.countP_append, List.count_append, opens.reports, rounds.reports]

/-- However a backend answers, whatever is asked of a watch and whichever goes first
when a command and a tick are ready together, the account is one of the four, after
any number of turns. The outcome of a watch that is over is the one of its account. The command
that was taken, if any, is the first of those that came. And a watch that is not over advances:
it asks for the runs when the timer ticks, unless a command is there before, which it obeys. -/
theorem account_of_followed (backend : Backend State) (tickFirst : Watch.Precedence State)
    (job : String) (kickoff : Watch.Kickoff) (timing : PollTiming) (state : State)
    (coming : List (Moment × Command)) :
    let reached (count : Nat) :=
      (Watch.new timing state coming).followed backend tickFirst count job kickoff
    (∀ count,
      let stage := reached count
      Account backend job kickoff state stage.watch.trace stage.verdict ∧
        Tally job stage.watch.trace stage.verdict ∧
        stage.watch.Drawn backend state coming ∧
        ∀ ending, stage = .finished ending →
          stage.verdict = some ending.outcome ∧ reached (count + 1) = .finished ending) ∧
      ∀ count watch, reached count = .running watch →
        watch.Advances job tickFirst (watch.commands backend state coming)
          (reached (count + 1)) := by
  intro reached
  have kept (count : Nat) : Watch.Kept backend job kickoff state coming (reached count) :=
    Watch.kept_followed timing coming tickFirst count
  constructor
  · intro count stage
    refine ⟨(kept count).account, (kept count).account.tally, (kept count).drawn, ?_⟩
    intro ending finished
    exact ⟨finished ▸ rfl, Watch.followed_succ_of_finished finished⟩
  · intro count watch running
    have keeps := kept count
    rw [running] at keeps
    have turned : reached (count + 1) = watch.turn backend tickFirst :=
      Watch.followed_succ_of_running running
    rw [turned]
    exact keeps.advances tickFirst

/-- A cancel that was sent with the first reply is obeyed when the reply is there, and neither the
next tick nor the quit that comes later is dealt with any more. -/
theorem account_of_followed_of_cancel :
    let run : Run := ⟨"1", .running, none, none, none, []⟩
    let script : Script :=
      ⟨[⟨.ok [run], .ofSeconds 1, [.cancel]⟩], [], ⟨.ok run, ⟨0⟩, []⟩⟩
    let moment (seconds : Nat) : Moment := (Span.ofSeconds seconds).nanoseconds
    let coming : List (Moment × Command) := [(moment 20, .quit)]
    let reached (count : Nat) := (Watch.new ⟨.ofSeconds 3, ⟨0⟩⟩ script coming).followed
      Script.backend (fun _ => false) count "job" (.observe [run])
    (reached 1).watch.commands Script.backend script coming =
        [(moment 4, .cancel), (moment 20, .quit)] ∧
      (reached 2).watch.record = (reached 1).watch.record ++ [⟨moment 4, .command .cancel⟩,
        ⟨moment 4, .event (.stopped "job" .cancelled)⟩] ∧
      (reached 2).verdict = some (.ok (some .cancelled)) := by
  intro run script moment coming reached
  have commands : (reached 1).watch.commands Script.backend script coming =
      [(moment 4, .cancel), (moment 20, .quit)] := by decide
  have account := account_of_followed Script.backend (fun _ => false) "job" (.observe [run])
    ⟨.ofSeconds 3, ⟨0⟩⟩ script coming
  have unfinished : (reached 1).ending?.isNone = true := by decide
  have advances := account.2 1 (reached 1).watch
    (Watch.Stage.eq_running (Option.isNone_iff_eq_none.mp unfinished))
  rw [commands] at advances
  change Watch.Advances _ _ _ _ (reached 2) at advances
  have going : (reached 1).watch.stopped = none := by decide
  have now : (reached 1).watch.now = moment 4 := by decide
  have armed : (reached 1).watch.timer.map (·.firing (reached 1).watch.now) = some (moment 6) := by
    decide
  refine ⟨commands, ?_⟩
  generalize reached 2 = stage at advances
  cases advances with
  | finished stopped => cases going.symm.trans stopped
  | ticked _ isTimer tickNext _ =>
      rw [isTimer, Option.map_some, Option.some_inj] at armed
      have before := tickNext (moment 4, .cancel) rfl
      rw [armed, now] at before
      exact absurd before (by decide)
  | cancelled _ _ _ isFirst stopped record =>
      cases isFirst
      rw [now, Nat.max_self] at record
      refine ⟨record, ?_⟩
      rw [Watch.Stage.verdict, stopped]
      rfl
  | left _ _ _ isFirst notCancel _ =>
      cases isFirst
      exact absurd rfl notCancel

end ExportWatch

import ExportWatch.Proofs.Watch.Account
import Mathlib.Data.List.Chain

/-! The pace of a watch. Its requests never overlap, and it asks for the latest runs about once
in a period, later only while it still waits for a reply. Unless a command is there before, each of
these requests is made. -/

namespace ExportWatch

variable {State : Type}

def TimedCall.isLatest (request : TimedCall) : Bool :=
  request.call = .latestRuns

/-- A request for the latest runs comes a period after the one before it, up to five milliseconds
earlier, or when that one is answered if this is later. -/
structure Spaced (period : Nat) (earlier : TimedCall) (start : Moment) : Prop where
  notBefore : max earlier.finish (earlier.start + period - Timer.tolerance) ≤ start
  notAfter : start ≤ max earlier.finish (earlier.start + period)

def TimedCall.latest (requests : List TimedCall) : List TimedCall :=
  requests.filter TimedCall.isLatest

/-- The period of a watch, and when its first tick is due. -/
structure Pace where
  period : Nat
  due : Moment

/-- Requests that were made up to a moment. -/
structure Orderly (pace : Pace) (requests : List TimedCall) (now : Moment) : Prop where
  apart : requests.Pairwise fun earlier later => earlier.finish ≤ later.start
  past : ∀ request ∈ requests, request.finish ≤ now
  spaced : (TimedCall.latest requests).IsChain fun earlier later =>
    Spaced pace.period earlier later.start
  prompt : ∀ first ∈ (TimedCall.latest requests).head?, first.start = pace.due

/-- The next tick is due when the first one should be, or a period after the last request. -/
inductive Awaits (pace : Pace) (timer : Timer) (now : Moment) : Option TimedCall → Prop
  | first : timer.deadline = pace.due → now ≤ pace.due → Awaits pace timer now none
  | next {last : TimedCall} :
      last.finish = now → timer.deadline ≤ last.start + pace.period →
      last.start + pace.period ≤ timer.deadline + Timer.tolerance →
      Awaits pace timer now (some last)

/-- The deadline after a tick that is not too early. -/
theorem Timer.deadline_after (timer : Timer) {fired : Moment} (reached : timer.deadline ≤ fired) :
    (timer.after fired).deadline ≤ fired + timer.period ∧
      fired + timer.period ≤ (timer.after fired).deadline + Timer.tolerance := by
  rw [Timer.after]
  unfold Moment at *
  dsimp only
  split <;> omega

theorem Spaced.of_firing {timer : Timer} {period : Nat} {last : TimedCall}
    (notAfter : timer.deadline ≤ last.start + period)
    (notBefore : last.start + period ≤ timer.deadline + Timer.tolerance) :
    Spaced period last (timer.firing last.finish) := by
  have answered : last.finish ≤ timer.firing last.finish := Nat.le_max_left _ _
  have reached : timer.deadline ≤ timer.firing last.finish := Nat.le_max_right _ _
  constructor
  · exact max_le answered ((Nat.sub_le_iff_le_add.mpr notBefore).trans reached)
  · exact max_le (le_max_left _ _) (notAfter.trans (le_max_right _ _))

namespace Awaits

variable {pace : Pace} {requests : List TimedCall} {now : Moment} {timer : Timer}

theorem prompt (awaits : Awaits pace timer now (TimedCall.latest requests).getLast?)
    (noneYet : TimedCall.latest requests = []) : timer.firing now = pace.due := by
  rw [noneYet] at awaits
  cases awaits with
  | first isDue notLate => exact (Nat.max_eq_right (isDue ▸ notLate)).trans isDue

theorem spaced {last : TimedCall}
    (awaits : Awaits pace timer now (TimedCall.latest requests).getLast?)
    (isLast : last ∈ (TimedCall.latest requests).getLast?) :
    Spaced pace.period last (timer.firing now) := by
  rw [Option.mem_def.mp isLast] at awaits
  cases awaits with
  | next answered notAfter notBefore => exact answered ▸ .of_firing notAfter notBefore

end Awaits

namespace Orderly

variable {pace : Pace} {requests : List TimedCall} {now : Moment} {timer : Timer}

theorem later (orderly : Orderly pace requests now) {moment : Moment} (le : now ≤ moment) :
    Orderly pace requests moment :=
  ⟨orderly.apart, fun request member => (orderly.past request member).trans le, orderly.spaced,
    orderly.prompt⟩

/-- Whatever is asked when everything before is answered does not overlap with it. -/
theorem apart_concat (orderly : Orderly pace requests now) {request : TimedCall}
    (start : now ≤ request.start) :
    (requests ++ [request]).Pairwise fun earlier later => earlier.finish ≤ later.start := by
  rw [List.pairwise_append]
  refine ⟨orderly.apart, List.pairwise_singleton _ _, ?_⟩
  intro earlier member later isLast
  rw [List.mem_singleton.mp isLast]
  exact (orderly.past earlier member).trans start

theorem past_concat (orderly : Orderly pace requests now) {request : TimedCall}
    (start : now ≤ request.start) (finish : request.start ≤ request.finish) :
    ∀ earlier ∈ requests ++ [request], earlier.finish ≤ request.finish := by
  intro earlier member
  rcases List.mem_append.mp member with before | last
  · exact (orderly.past earlier before).trans (start.trans finish)
  · rw [List.mem_singleton.mp last]

theorem other (orderly : Orderly pace requests now) {request : TimedCall}
    (start : now ≤ request.start) (finish : request.start ≤ request.finish)
    (notLatest : request.isLatest = false) :
    Orderly pace (requests ++ [request]) request.finish := by
  have same : TimedCall.latest (requests ++ [request]) = TimedCall.latest requests := by
    rw [TimedCall.latest, List.filter_append, List.filter_singleton, notLatest]
    exact List.append_nil _
  refine ⟨orderly.apart_concat start, orderly.past_concat start finish, ?_, ?_⟩
  · rw [same]
    exact orderly.spaced
  · rw [same]
    exact orderly.prompt

/-- A tick is in time, and leaves the timer so that the next one will be. -/
theorem tick (orderly : Orderly pace requests now) (period : timer.period = pace.period)
    (awaits : Awaits pace timer now (TimedCall.latest requests).getLast?) (delay : Nat)
    (commands : List Command) :
    let start := timer.firing now
    let request : TimedCall := ⟨.latestRuns, start, start + delay, commands⟩
    Orderly pace (requests ++ [request]) request.finish ∧
      Awaits pace (timer.after start) request.finish
        (TimedCall.latest (requests ++ [request])).getLast? := by
  intro start request
  have isLatest : TimedCall.latest (requests ++ [request]) =
      TimedCall.latest requests ++ [request] := by
    rw [TimedCall.latest, List.filter_append]
    rfl
  have since : now ≤ start := Nat.le_max_left _ _
  have reached : timer.deadline ≤ start := Nat.le_max_right _ _
  have deadline := timer.deadline_after reached
  rw [period] at deadline
  have next : Awaits pace (timer.after start) request.finish (some request) :=
    .next rfl deadline.1 deadline.2
  rw [isLatest, List.getLast?_concat]
  refine ⟨⟨orderly.apart_concat since, orderly.past_concat since (Nat.le_add_right _ _), ?spaced,
    ?prompt⟩, next⟩
  case spaced =>
    rw [isLatest, List.isChain_append]
    refine ⟨orderly.spaced, .singleton _, ?_⟩
    rintro last isLast other ⟨⟩
    exact awaits.spaced isLast
  case prompt =>
    intro first isFirst
    rw [isLatest, List.head?_append] at isFirst
    cases none : (TimedCall.latest requests).head? with
    | some head => exact orderly.prompt first (by rwa [none] at isFirst ⊢)
    | none =>
        have noneYet := List.head?_eq_none_iff.mp none
        rw [noneYet] at isFirst
        cases isFirst
        exact awaits.prompt noneYet

end Orderly

namespace Watch

variable {backend : Backend State} {state : State} {coming : List (Moment × Command)}
  {pace : Pace} {opening : List Entry} {watch : Watch State} {job : String} {session : Session}
  {timer : Timer}

/-- The requests of a watch are orderly, and its record continues the one it began with. -/
structure Regular (backend : Backend State) (state : State) (pace : Pace) (opening : List Entry)
    (watch : Watch State) : Prop where
  sameState : (backend.served state watch.record).2 = watch.state
  orderly : Orderly pace (backend.requests state watch.record) watch.now
  begun : opening <+: watch.record

namespace Regular

theorem mono {next : Watch State} (regular : Regular backend state pace opening watch)
    (record : next.record = watch.record) (sameState : next.state = watch.state)
    (now : watch.now ≤ next.now) : Regular backend state pace opening next := by
  constructor
  · rw [record, sameState]
    exact regular.sameState
  · rw [record]
    exact regular.orderly.later now
  · rw [record]
    exact regular.begun

theorem note (regular : Regular backend state pace opening watch) {occurrence : Occurrence}
    (notCall : occurrence.isCall = false) :
    Regular backend state pace opening (watch.note occurrence) := by
  have same := served_note backend state watch notCall
  constructor
  · rw [same]
    exact regular.sameState
  · rw [Backend.requests, same]
    exact regular.orderly
  · exact regular.begun.trans (List.prefix_append _ _)

theorem emit (regular : Regular backend state pace opening watch) (event : WatchEvent) :
    Regular backend state pace opening (watch.emit event) :=
  regular.note rfl

theorem call (regular : Regular backend state pace opening watch) {α : Type} {call : Call}
    {request : State → Reply α × State} (notLatest : call ≠ .latestRuns)
    (serves : backend.serve job watch.state call = ((request watch.state).1.delay,
      (request watch.state).1.commands, (request watch.state).2)) :
    Regular backend state pace opening (watch.call call job request).1 := by
  have served := served_call regular.sameState serves
  constructor
  · rw [served]
  · rw [Backend.requests, served]
    exact regular.orderly.other (Nat.le_refl _) (Nat.le_add_right _ _) (decide_eq_false notLatest)
  · exact regular.begun.trans (List.prefix_append _ _)

theorem refresh (regular : Regular backend state pace opening watch) :
    Regular backend state pace opening (watch.refresh backend job) := by
  have called : Regular backend state pace opening
      (watch.call .completedRuns job (backend.completedRuns job)).1 := regular.call nofun rfl
  exact called.emit _

theorem halted (regular : Regular backend state pace opening watch) (poller : Poller)
    (reason : StopReason) :
    Regular backend state pace opening (watch.halted poller job reason) := by
  have stopped : Regular backend state pace opening
      { watch with
        poller := { poller with phase := .stopped }
        timer := none
        stopped := some reason } := regular.mono rfl rfl (Nat.le_refl _)
  exact stopped.emit _

end Regular

/-- What a tick asks is in time, and so will be what the next one asks. -/
theorem regular_askRuns (regular : Regular backend state pace opening watch)
    (period : timer.period = pace.period)
    (awaits : Awaits pace timer watch.now
      (TimedCall.latest (backend.requests state watch.record)).getLast?) :
    Regular backend state pace opening (watch.askRuns backend timer job).1 ∧
      Awaits pace (timer.after (timer.firing watch.now)) (watch.askRuns backend timer job).1.now
        (TimedCall.latest
          (backend.requests state (watch.askRuns backend timer job).1.record)).getLast? := by
  have fired : Regular backend state pace opening
      { watch with
        now := timer.firing watch.now
        timer := some (timer.after (timer.firing watch.now)) } :=
    regular.mono rfl rfl (Nat.le_max_left _ _)
  have served : backend.served state (watch.askRuns backend timer job).1.record = _ :=
    served_call fired.sameState rfl
  have ticked := regular.orderly.tick period awaits
    (backend.latestRuns job watch.state).1.delay.nanoseconds
    (backend.latestRuns job watch.state).1.commands
  refine ⟨⟨by rw [served]; rfl, ?_, fired.begun.trans (List.prefix_append _ _)⟩, ?_⟩
  · rw [Backend.requests, served]
    exact ticked.1
  · rw [Backend.requests, served]
    exact ticked.2

theorem now_le_of_nextCommand {command : Command} {arrived : Watch State}
    (next : watch.nextCommand = some (command, arrived)) : watch.now ≤ arrived.now := by
  unfold nextCommand at next
  split at next
  · cases next
    exact Nat.le_refl _
  · cases next
    exact Nat.le_max_left _ _
  · cases next

/-- A turn asks for the latest runs. -/
def Asks (backend : Backend State) (state : State) (watch : Watch State) (tick : Moment)
    (after : Stage State) : Prop :=
  ∃ next finish commands others, after = .running next ∧
    backend.requests state next.record =
      backend.requests state watch.record ++ ⟨.latestRuns, tick, finish, commands⟩ :: others

section Timely

variable (backend state coming pace opening job)

/-- The pace is kept, and while the watch polls the next tick is awaited. -/
inductive Timely : Stage State → Prop
  | going {watch : Watch State} {session : Session} {timer : Timer} :
      Follows watch job session timer → Untaken backend state coming watch →
      Regular backend state pace opening watch → timer.period = pace.period →
      Awaits pace timer watch.now
        (TimedCall.latest (backend.requests state watch.record)).getLast? →
      Timely (.running watch)
  | stopping {watch : Watch State} {reason : StopReason} :
      watch.stopped = some reason → Regular backend state pace opening watch →
      Timely (.running watch)
  | finished {ending : Ending State} :
      Regular backend state pace opening ending.watch → Timely (.finished ending)

end Timely

namespace Timely

theorem regular {stage : Stage State}
    (timely : Timely backend state coming pace opening job stage) :
    Regular backend state pace opening stage.watch := by
  cases timely with
  | going _ _ regular _ _ => exact regular
  | stopping _ regular => exact regular
  | finished regular => exact regular

theorem turn (timely : Timely backend state coming pace opening job (.running watch))
    (tickFirst : Precedence State) :
    Timely backend state coming pace opening job (watch.turn backend tickFirst) := by
  cases timely with
  | @going _ session timer follows untaken regular period awaits =>
      rcases turn_of_follows backend follows tickFirst with
        ⟨next, turned, round⟩ | ⟨command, arrived, next, turned⟩
      · have asks : Regular backend state pace opening (watch.askRuns backend timer job).1 ∧ _ :=
          regular_askRuns regular period awaits
        rcases asks with ⟨asked, awaitsNext⟩
        rw [turned]
        cases round with
        | @reported event report =>
            have answered : Regular backend state pace opening
                { (watch.askRuns backend timer job).1 with
                  poller := watch.poller.answered session } :=
              asked.mono rfl rfl (Nat.le_refl _)
            refine .going (follows.reported event) (untaken.reported _ _ _ _)
              (answered.emit event) period ?_
            rw [Backend.requests, served_emit]
            exact awaitsNext
        | ended ends => exact .stopping rfl (asked.halted _ _).refresh
      · have same := sameCourse_of_nextCommand next
        have arrives : Regular backend state pace opening arrived :=
          regular.mono same.record same.state (now_le_of_nextCommand next)
        have noted (occurrence : Command) : Regular backend state pace opening
            (arrived.note (.command occurrence)) := arrives.note rfl
        rw [turned]
        cases command with
        | cancel =>
            rw [obey_cancel (follows.arrived same)]
            exact .stopping rfl ((noted .cancel).halted _ _)
        | quit => exact .finished (noted .quit)
        | close => exact .finished (noted .close)
  | stopping stopped regular =>
      rw [turn_of_stopped stopped]
      exact .finished regular

/-- The next tick is in time, and unless a command is there before it asks for the runs. -/
theorem nextTick (timely : Timely backend state coming pace opening job (.running watch))
    (going : watch.stopped = none) (tickFirst : Precedence State) :
    ∃ tick, (TimedCall.latest (backend.requests state watch.record) = [] → tick = pace.due) ∧
      (∀ last ∈ (TimedCall.latest (backend.requests state watch.record)).getLast?,
        Spaced pace.period last tick) ∧
      (TickNext tickFirst watch (watch.commands backend state coming) tick →
        Asks backend state watch tick (watch.turn backend tickFirst)) := by
  cases timely with
  | @going _ session timer follows untaken regular period awaits =>
      refine ⟨timer.firing watch.now, awaits.prompt, fun last => awaits.spaced, ?_⟩
      intro tickNext
      have due := (untaken.tickNext_iff follows tickFirst).mp tickNext
      have ticks : ∃ after, watch.turn backend tickFirst = .running after ∧
          Round backend watch job session timer after := follows.turn_of_due due
      rcases ticks with ⟨after, turned, round⟩
      rcases round.record with ⟨entries, record⟩
      rcases Backend.requests_call watch.record entries _ .latestRuns job with
        ⟨finish, commands, others, requests⟩
      exact ⟨after, finish, commands, others, turned, record ▸ requests⟩
  | stopping stopped _ =>
      rw [stopped] at going
      cases going

end Timely

/-! How polling begins. -/

theorem Regular.begin (regular : Regular backend state pace opening watch) :
    Regular backend state pace watch.record watch :=
  ⟨regular.sameState, regular.orderly, List.prefix_refl _⟩

theorem regular_new (backend : Backend State) (state : State) (pace : Pace) (timing : PollTiming)
    (coming : List (Moment × Command)) :
    Regular backend state pace [] (Watch.new timing state coming) := by
  refine ⟨rfl, ⟨List.Pairwise.nil, nofun, List.isChain_nil, nofun⟩, List.nil_prefix⟩

theorem timely_opened (untaken : Untaken backend state coming watch)
    (regular : Regular backend state pace opening watch) (job : String) (reason : StartReason)
    (going : watch.stopped = none)
    (noneYet : TimedCall.latest (backend.requests state watch.record) = [])
    (due : pace.due = watch.now + (watch.poller.startDelay reason).nanoseconds)
    (period : pace.period = watch.poller.timing.interval.nanoseconds) :
    Timely backend state coming pace (watch.opened job reason).record job
      (.running (watch.opened job reason)) := by
  rcases opened_follows watch going job reason with ⟨session, timer, follows⟩
  have isTimer : timer = ⟨watch.poller.lastTimer + 1,
      watch.now + (watch.poller.startDelay reason).nanoseconds,
      watch.poller.timing.interval.nanoseconds⟩ := (Option.some.inj follows.armed).symm
  subst isTimer
  have armed : Regular backend state pace opening
      ({ watch with poller := watch.poller.openSession job }.arm (watch.poller.lastTimer + 1)
        (watch.poller.startDelay reason) watch.poller.timing.interval) :=
    regular.mono rfl rfl (Nat.le_refl _)
  refine .going follows (untaken.opened job reason) (armed.emit (.started job)).begin
    period.symm ?_
  have same : backend.served state (watch.opened job reason).record =
      backend.served state watch.record := served_emit backend state _ _
  rw [Backend.requests, same, ← Backend.requests, noneYet]
  exact .first due.symm (due ▸ Nat.le_add_right _ _)

def firstDelay (timing : PollTiming) : Kickoff → Span
  | .observe _ => Poller.period timing
  | .rerun => timing.startupDelay

/-- When polling begins the timer is armed, which for a rerun is when its reply is there, and the
first tick is due after a delay. -/
def Arms (backend : Backend State) (job : String) (kickoff : Kickoff) (state : State)
    (timing : PollTiming) (record : List Entry) (due : Moment) : Prop :=
  ∃ armed, ⟨armed, .event (.started job)⟩ ∈ record ∧
    due = armed + (firstDelay timing kickoff).nanoseconds ∧
    (kickoff = .rerun → ∃ asked ∈ backend.requests state record,
      asked.call = .rerun ∧ asked.finish = armed)

theorem timely_kickOff (backend : Backend State) (job : String) (kickoff : Kickoff) (state : State)
    (timing : PollTiming) (coming : List (Moment × Command)) :
    ∃ pace opening, pace.period = (Poller.period timing).nanoseconds ∧
      Timely backend state coming pace opening job
        ((Watch.new timing state coming).kickOff backend job kickoff) ∧
      (Arms backend job kickoff state timing opening pace.due ∨
        ∃ ending, (Watch.new timing state coming).kickOff backend job kickoff = .finished ending ∧
          TimedCall.latest (backend.requests state ending.watch.record) = []) := by
  have idle : (Watch.new timing state coming).poller.phase = .idle := rfl
  have begins (due : Moment) := regular_new backend state
    ⟨(Poller.period timing).nanoseconds, due⟩ timing coming
  have untaken : Untaken backend state coming (Watch.new timing state coming) := untaken_new timing
  have called : Untaken backend state coming
      ((Watch.new timing state coming).call .rerun job (backend.rerun job)).1 := untaken.call rfl
  have asked (due : Moment) : Regular backend state ⟨(Poller.period timing).nanoseconds, due⟩ []
      ((Watch.new timing state coming).call .rerun job (backend.rerun job)).1 :=
    (begins due).call nofun rfl
  rcases kickOff_of_idle backend idle job kickoff with
    ⟨runs, rfl, -, kicked⟩ | ⟨newest, others, rfl, -, kicked⟩ |
    ⟨causes, rfl, -, kicked⟩ | ⟨run, rfl, -, kicked⟩
  · refine ⟨⟨_, 0⟩, [], rfl, ?_, .inr ⟨_, kicked, rfl⟩⟩
    rw [kicked]
    exact .finished ((begins 0).emit _)
  · refine ⟨⟨_, 0 + (Poller.period timing).nanoseconds⟩, _, rfl, ?_,
      .inl ⟨0, List.mem_singleton_self _, rfl, nofun⟩⟩
    rw [kicked]
    exact timely_opened untaken (begins _) job .observed rfl rfl rfl rfl
  · refine ⟨⟨_, 0⟩, [], rfl, ?_, .inr ⟨_, kicked, rfl⟩⟩
    rw [kicked]
    exact .finished (asked 0)
  · let asks := ((Watch.new timing state coming).call .rerun job (backend.rerun job)).1
    have request : backend.requests state
        ((asks.emit (.notice (.rerunRequested job run.uid))).opened job .rerun).record =
          [⟨.rerun, 0, asks.now, (backend.rerun job state).1.commands⟩] := rfl
    have arms : Arms backend job .rerun state timing
        ((asks.emit (.notice (.rerunRequested job run.uid))).opened job .rerun).record
        (asks.now + timing.startupDelay.nanoseconds) := by
      refine ⟨asks.now, List.mem_append_right _ (List.mem_singleton_self _), rfl, fun _ => ?_⟩
      rw [request]
      exact ⟨_, List.mem_singleton_self _, rfl, rfl⟩
    refine ⟨⟨_, asks.now + timing.startupDelay.nanoseconds⟩, _, rfl, ?_, .inl arms⟩
    rw [kicked]
    exact timely_opened (called.emit _) ((asked _).emit _) job .rerun rfl rfl rfl rfl

theorem Arms.of_begun {record : List Entry} {kickoff : Kickoff} {timing : PollTiming}
    {due : Moment} (arms : Arms backend job kickoff state timing opening due)
    (begun : opening <+: record) : Arms backend job kickoff state timing record due := by
  rcases arms with ⟨armed, noted, isDue, asked⟩
  refine ⟨armed, begun.subset noted, isDue, ?_⟩
  intro isRerun
  rcases asked isRerun with ⟨request, member, isCall, finish⟩
  rcases begun with ⟨after, rfl⟩
  exact ⟨request, (Backend.requests_continue opening after).subset member, isCall, finish⟩

theorem verdict_kickOff (timing : PollTiming) {kickoff : Kickoff} {occurrences : List Occurrence}
    {opened : State} (opens : Opening backend job state kickoff occurrences opened) :
    ((Watch.new timing state coming).kickOff backend job kickoff).verdict = none := by
  have idle : (Watch.new timing state coming).poller.phase = .idle := rfl
  rcases kickOff_of_idle backend idle job kickoff with
    ⟨runs, rfl, terminal, kicked⟩ | ⟨newest, others, rfl, running, kicked⟩ |
    ⟨causes, rfl, outcome, kicked⟩ | ⟨run, rfl, outcome, kicked⟩
  · cases opens with
    | observed running => simp [running] at terminal
  · rw [kicked]
    rfl
  · cases opens with
    | rerun asked => cases asked.symm.trans outcome
  · rw [kicked]
    rfl

end Watch

/-- Requests do not overlap. The first one for the latest runs comes when the first tick is due,
and each later one a period after the one before it, or as soon as that one is answered. A watch
that polls makes each of them, unless a command is there before. -/
theorem requests_keep_pace (backend : Backend State) (tickFirst : Watch.Precedence State)
    (job : String) (kickoff : Watch.Kickoff) (timing : PollTiming) (state : State)
    (coming : List (Moment × Command)) :
    let reached (count : Nat) :=
      (Watch.new timing state coming).followed backend tickFirst count job kickoff
    let period := max timing.interval.nanoseconds (Span.ofMilliseconds 100).nanoseconds
    (∀ count,
      let watch := (reached count).watch
      let requests := backend.requests state watch.record
      requests.map (fun request => (request.start, request.call)) =
          watch.calls.map (fun call => (call.1, call.2.1)) ∧
        requests.Pairwise (fun earlier later => earlier.finish ≤ later.start) ∧
        (TimedCall.latest requests).IsChain
          (fun earlier later => Spaced period earlier later.start) ∧
        ∀ first ∈ (TimedCall.latest requests).head?,
          Watch.Arms backend job kickoff state timing watch.record first.start) ∧
      (∀ occurrences opened, Opening backend job state kickoff occurrences opened →
        (reached 0).verdict = none) ∧
      ∀ count watch, reached count = .running watch → watch.stopped = none →
        let requests := TimedCall.latest (backend.requests state watch.record)
        ∃ tick,
          (requests = [] → Watch.Arms backend job kickoff state timing watch.record tick) ∧
          (∀ last ∈ requests.getLast?, Spaced period last tick) ∧
          (watch.TickNext tickFirst (watch.commands backend state coming) tick →
            watch.Asks backend state tick (reached (count + 1))) := by
  intro reached period
  rcases Watch.timely_kickOff backend job kickoff state timing coming with
    ⟨pace, opening, samePeriod, timely, began⟩
  have samePeriod : pace.period = period := samePeriod
  have timely (count : Nat) :
      Watch.Timely backend state coming pace opening job (reached count) :=
    Watch.turns_induction (fun _ timely => timely.turn tickFirst) timely count
  refine ⟨?kept, ?opens, ?asks⟩
  case kept =>
    intro count watch requests
    have regular : Watch.Regular backend state pace opening watch := (timely count).regular
    refine ⟨backend.map_requests state watch, regular.orderly.apart,
      samePeriod ▸ regular.orderly.spaced, ?_⟩
    intro first isFirst
    rcases began with arms | ⟨ending, kicked, noneAsked⟩
    · rw [regular.orderly.prompt first isFirst]
      exact arms.of_begun regular.begun
    · have same : watch = ending.watch :=
        congrArg Watch.Stage.watch (Watch.followed_of_finished kicked tickFirst count)
      change first ∈ (TimedCall.latest (backend.requests state watch.record)).head? at isFirst
      rw [same, noneAsked] at isFirst
      cases isFirst
  case opens =>
    intro occurrences opened opens
    exact Watch.verdict_kickOff timing opens
  case asks =>
    intro count watch running going requests
    have polls := timely count
    rw [running] at polls
    rcases polls.nextTick going tickFirst with ⟨tick, first, next, asks⟩
    rw [samePeriod] at next
    refine ⟨tick, ?_, next, ?_⟩
    · intro noneYet
      rcases began with arms | ⟨ending, kicked, -⟩
      · rw [first noneYet]
        exact arms.of_begun polls.regular.begun
      · cases running.symm.trans (Watch.followed_of_finished kicked tickFirst count)
    · intro tickNext
      have turned : reached (count + 1) = watch.turn backend tickFirst :=
        Watch.followed_succ_of_running running
      rw [turned]
      exact asks tickNext

/-- The first reply takes two and a half seconds, so the second request is made when it is there,
and not twice for the tick that was missed. -/
theorem requests_keep_pace_after_slow_reply :
    let run : Run := ⟨"1", .running, none, none, none, []⟩
    let slow : Reply (List Run) := ⟨.ok [run], .ofMilliseconds 2500, []⟩
    let script : Script := ⟨[slow, ⟨.ok [run], ⟨0⟩, []⟩], [], ⟨.ok run, ⟨0⟩, []⟩⟩
    let timing : PollTiming := ⟨.ofSeconds 1, ⟨0⟩⟩
    let reached (count : Nat) := (Watch.new timing script []).followed Script.backend
      (fun _ => false) count "job" (.observe [run])
    let moment (milliseconds : Nat) : Moment := (Span.ofMilliseconds milliseconds).nanoseconds
    TimedCall.latest (Script.backend.requests script (reached 1).watch.record) =
        [⟨.latestRuns, moment 1000, moment 3500, []⟩] ∧
      (reached 1).watch.Asks Script.backend script (moment 3500) (reached 2) := by
  intro run slow script timing reached moment
  have first : TimedCall.latest (Script.backend.requests script (reached 1).watch.record) =
      [⟨.latestRuns, moment 1000, moment 3500, []⟩] := by decide
  have keeps := requests_keep_pace Script.backend (fun _ => false) "job" (.observe [run]) timing
    script []
  rcases keeps.2.2 1 (reached 1).watch rfl rfl with ⟨tick, -, spaced, asks⟩
  let period := max timing.interval.nanoseconds (Span.ofMilliseconds 100).nanoseconds
  have bounds : Spaced period ⟨.latestRuns, moment 1000, moment 3500, []⟩ tick :=
    spaced _ (congrArg List.getLast? first)
  have latest : max (moment 3500) (moment 1000 + period) = moment 3500 := by decide
  have earliest : moment 3500 = max (moment 3500) (moment 1000 + period - Timer.tolerance) := by
    decide
  have isTick : tick = moment 3500 :=
    Nat.le_antisymm (bounds.notAfter.trans_eq latest) (earliest.trans_le bounds.notBefore)
  have noCommand : (reached 1).watch.commands Script.backend script [] = [] := by decide
  refine ⟨first, isTick ▸ asks ?_⟩
  intro command isFirst
  rw [noCommand] at isFirst
  cases isFirst

end ExportWatch

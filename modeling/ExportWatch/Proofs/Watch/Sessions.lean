import ExportWatch.Proofs.Watch.Course
import Mathlib.Data.List.Chain

/-! The effects of a poller are those of one session after another. A session arms
a timer, reports what it sees, and at its end cancels the timer and says why it
ended, unless it only gives way to the next job. -/

namespace ExportWatch.Poller

/-- A session ends for another job, on request, or by an answer. -/
inductive Ending where
  | switched
  | cancelled
  | finished (reason : StopReason)
  deriving DecidableEq

/-- What is seen of one session from outside. A session without an ending still
goes on. -/
structure SessionTrace where
  timer : Nat
  job : String
  delay : Span
  reports : List Effect
  ending : Option Ending

inductive IsReport (job : String) : Effect → Prop
  | fetch (number : Nat) : IsReport job (.fetch job number)
  | update (run : Run) : IsReport job (.update run)
  | fetchFailed (message : String) : IsReport job (.fetchFailed message)

def Ending.effects (job : String) : Ending → List Effect
  | switched => []
  | cancelled => [.stopped job .cancelled]
  | finished reason => [.stopped job reason, .refreshCompleted job]

namespace SessionTrace

def closing (trace : SessionTrace) : List Effect :=
  match trace.ending with
  | none => []
  | some ending => .cancelTimer trace.timer :: ending.effects trace.job

def effects (period : Span) (trace : SessionTrace) : List Effect :=
  .schedule trace.timer trace.job trace.delay period :: (trace.reports ++ trace.closing)

structure WellFormed (timing : PollTiming) (trace : SessionTrace) : Prop where
  delay : trace.delay = period timing ∨ trace.delay = timing.startupDelay
  reports : ∀ report ∈ trace.reports, IsReport trace.job report
  ending : trace.ending ≠ some (.finished .cancelled)

/-- A session is over before the next one begins, and only another job takes the
place of one that was still polled. -/
structure Precedes (previous next : SessionTrace) : Prop where
  ended : previous.ending ≠ none
  timers : previous.timer < next.timer
  jobs : previous.ending = some .switched → previous.job ≠ next.job

end SessionTrace

open SessionTrace

/-- The sessions so far, beside a poller with this clock and these numbers. -/
structure Recorded (timing : PollTiming) (traces : List SessionTrace) (poller : Poller) :
    Prop where
  clock : poller.timing = ⟨period timing, timing.startupDelay⟩
  wellFormed : ∀ trace ∈ traces, trace.WellFormed timing
  chained : traces.IsChain Precedes
  bounded : ∀ trace ∈ traces, trace.timer ≤ poller.lastTimer

/-- The last session is the one that is polled, if any is. -/
def EndsWith (traces : List SessionTrace) : Option Session → Prop
  | none => ∀ last ∈ traces.getLast?, last.ending ≠ none ∧ last.ending ≠ some .switched
  | some session =>
      ∃ earlier last, traces = earlier ++ [last] ∧ last.ending = none ∧
        last.timer = session.timer ∧ last.job = session.job

structure Describes (timing : PollTiming) (traces : List SessionTrace) (poller : Poller) :
    Prop extends Recorded timing traces poller where
  current : EndsWith traces poller.session?

theorem describes_new (timing : PollTiming) : Describes timing [] (new timing) where
  clock := rfl
  wellFormed := by simp
  chained := .nil
  bounded := by simp
  current := by simp [EndsWith, new, session?]

/-! The last session goes on, or ends, with the sessions before it as they are. -/

theorem isChain_replace_last {earlier : List SessionTrace} {last replaced : SessionTrace}
    (chained : (earlier ++ [last]).IsChain Precedes) (sameTimer : replaced.timer = last.timer)
    (sameJob : replaced.job = last.job) : (earlier ++ [replaced]).IsChain Precedes := by
  rw [List.isChain_append] at chained ⊢
  refine ⟨chained.1, List.isChain_singleton _, ?_⟩
  intro previous isPrevious next isNext
  have precedes := chained.2.2 previous isPrevious last rfl
  rw [List.head?_singleton, Option.mem_some_iff] at isNext
  subst isNext
  exact ⟨precedes.ended, sameTimer ▸ precedes.timers,
    fun switched => sameJob ▸ precedes.jobs switched⟩

variable {timing : PollTiming} {poller next : Poller} {traces earlier : List SessionTrace}
variable {last trace : SessionTrace}

theorem Recorded.replace_last (recorded : Recorded timing (earlier ++ [last]) poller)
    (replaced : SessionTrace) (sameTimer : replaced.timer = last.timer)
    (sameJob : replaced.job = last.job)
    (wellFormed : replaced.WellFormed timing) :
    Recorded timing (earlier ++ [replaced]) poller where
  clock := recorded.clock
  wellFormed := by
    intro trace member
    rcases List.mem_append.mp member with member | member
    · exact recorded.wellFormed trace (List.mem_append_left _ member)
    · exact List.mem_singleton.mp member ▸ wellFormed
  chained := isChain_replace_last recorded.chained sameTimer sameJob
  bounded := by
    intro trace member
    rcases List.mem_append.mp member with member | member
    · exact recorded.bounded trace (List.mem_append_left _ member)
    · rw [List.mem_singleton.mp member, sameTimer]
      exact recorded.bounded last (by simp)

theorem Recorded.concat (recorded : Recorded timing traces poller)
    (timer : trace.timer = poller.lastTimer + 1) (wellFormed : trace.WellFormed timing)
    (precedes : ∀ last ∈ traces.getLast?, Precedes last trace) (job : String) :
    Recorded timing (traces ++ [trace]) (poller.openSession job) where
  clock := recorded.clock
  wellFormed := by
    intro other member
    rcases List.mem_append.mp member with member | member
    · exact recorded.wellFormed other member
    · exact List.mem_singleton.mp member ▸ wellFormed
  chained := by
    rw [List.isChain_append]
    refine ⟨recorded.chained, List.isChain_singleton _, ?_⟩
    intro previous isPrevious next isNext
    rw [List.head?_singleton, Option.mem_some_iff] at isNext
    exact isNext ▸ precedes previous isPrevious
  bounded := by
    intro other member
    rcases List.mem_append.mp member with member | member
    · exact (recorded.bounded other member).trans (Nat.le_succ _)
    · rw [List.mem_singleton.mp member, timer]
      exact Nat.le_refl _

/-- Only the timing and the number of the last timer matter for what is recorded. -/
theorem Recorded.of_same_clock (recorded : Recorded timing traces poller)
    (sameTiming : next.timing = poller.timing) (sameTimer : next.lastTimer = poller.lastTimer) :
    Recorded timing traces next where
  clock := sameTiming.trans recorded.clock
  wellFormed := recorded.wellFormed
  chained := recorded.chained
  bounded := fun trace member => sameTimer ▸ recorded.bounded trace member

/-- What the sessions show, in order. -/
def shown (timing : PollTiming) (traces : List SessionTrace) : List Effect :=
  traces.flatMap (SessionTrace.effects (period timing))

theorem shown_concat (timing : PollTiming) (earlier : List SessionTrace) (last : SessionTrace) :
    shown timing (earlier ++ [last]) = shown timing earlier ++ last.effects (period timing) := by
  simp [shown]

/-! A session begins. -/

theorem startDelay_of_clock (clock : poller.timing = ⟨period timing, timing.startupDelay⟩)
    (reason : StartReason) :
    poller.startDelay reason = period timing ∨ poller.startDelay reason = timing.startupDelay := by
  cases reason <;> simp [startDelay, clock]

def opening (poller : Poller) (job : String) (reason : StartReason) : SessionTrace where
  timer := poller.lastTimer + 1
  job := job
  delay := poller.startDelay reason
  reports := []
  ending := none

theorem opening_wellFormed (clock : poller.timing = ⟨period timing, timing.startupDelay⟩)
    (job : String) (reason : StartReason) : (poller.opening job reason).WellFormed timing where
  delay := startDelay_of_clock clock reason
  reports := by simp [opening]
  ending := by simp [opening]

theorem opening_effects (clock : poller.timing = ⟨period timing, timing.startupDelay⟩)
    (job : String) (reason : StartReason) :
    (poller.opening job reason).effects (period timing) =
      [.schedule (poller.lastTimer + 1) job (poller.startDelay reason)
        poller.timing.interval] := by
  simp [opening, SessionTrace.effects, closing, clock]

theorem endsWith_openSession (poller : Poller) (traces : List SessionTrace) (job : String)
    (reason : StartReason) :
    EndsWith (traces ++ [poller.opening job reason]) (poller.openSession job).session? :=
  ⟨traces, poller.opening job reason, rfl, rfl, rfl, rfl⟩

/-! A session reports, or ends. -/

def SessionTrace.report (trace : SessionTrace) (effect : Effect) : SessionTrace :=
  { trace with reports := trace.reports ++ [effect] }

def SessionTrace.close (trace : SessionTrace) (ending : Ending) : SessionTrace :=
  { trace with ending := some ending }

theorem SessionTrace.WellFormed.report {effect : Effect} (wellFormed : trace.WellFormed timing)
    (isReport : IsReport trace.job effect) : (trace.report effect).WellFormed timing where
  delay := wellFormed.delay
  reports := by
    intro other member
    rcases List.mem_append.mp member with member | member
    · exact wellFormed.reports other member
    · exact List.mem_singleton.mp member ▸ isReport
  ending := wellFormed.ending

theorem SessionTrace.report_effects (goesOn : trace.ending = none) (period : Span)
    (effect : Effect) : (trace.report effect).effects period = trace.effects period ++ [effect] := by
  simp [report, SessionTrace.effects, closing, goesOn]

theorem SessionTrace.WellFormed.close {ending : Ending} (wellFormed : trace.WellFormed timing)
    (allowed : ending ≠ .finished .cancelled) : (trace.close ending).WellFormed timing where
  delay := wellFormed.delay
  reports := wellFormed.reports
  ending := by simpa [SessionTrace.close] using allowed

theorem SessionTrace.close_effects (goesOn : trace.ending = none) (period : Span)
    (ending : Ending) :
    (trace.close ending).effects period =
      trace.effects period ++ .cancelTimer trace.timer :: ending.effects trace.job := by
  simp [close, SessionTrace.effects, closing, goesOn]

/-! Each kind of effects, as what it adds to the sessions. -/

/-- Sessions that show the effects after those of `traces`, and lead to `next`. -/
def Extends (timing : PollTiming) (traces : List SessionTrace) (next : Poller)
    (effects : List Effect) : Prop :=
  ∃ extended, Describes timing extended next ∧
    shown timing extended = shown timing traces ++ effects

theorem Describes.silent (describes : Describes timing traces poller)
    (sameTiming : next.timing = poller.timing) (sameTimer : next.lastTimer = poller.lastTimer)
    (sameSession : next.session? = poller.session?) : Extends timing traces next [] :=
  ⟨traces, ⟨describes.toRecorded.of_same_clock sameTiming sameTimer,
    sameSession ▸ describes.current⟩, by simp⟩

theorem Describes.opened (describes : Describes timing traces poller) {job : String}
    (reason : StartReason) (other : poller.isPolling job = false) :
    Extends timing traces (poller.openSession job) (poller.cancelTimers ++
      [.schedule (poller.lastTimer + 1) job (poller.startDelay reason)
        poller.timing.interval]) := by
  have wellFormed := opening_wellFormed describes.clock job reason
  have current := describes.current
  cases session? : poller.session? with
  | none =>
      rw [session?] at current
      refine ⟨traces ++ [poller.opening job reason], ⟨?_, endsWith_openSession ..⟩, ?_⟩
      · apply describes.toRecorded.concat rfl wellFormed
        intro last isLast
        exact ⟨(current last isLast).1,
          Nat.lt_succ_of_le (describes.bounded last (List.mem_of_mem_getLast? isLast)),
          fun switched => absurd switched (current last isLast).2⟩
      · rw [shown_concat, opening_effects describes.clock]
        simp [cancelTimers, activeTimer, session?]
  | some session =>
      rw [session?] at current
      rcases current with ⟨earlier, last, rfl, goesOn, sameTimer, sameJob⟩
      have otherJob : last.job ≠ job := by
        simpa [isPolling, session?, sameJob] using other
      have bound : last.timer ≤ poller.lastTimer := describes.bounded last (by simp)
      have switched : Recorded timing (earlier ++ [last.close .switched]) poller :=
        describes.toRecorded.replace_last _ rfl rfl
          ((describes.wellFormed last (by simp)).close (by simp))
      refine ⟨earlier ++ [last.close .switched] ++ [poller.opening job reason],
        ⟨?_, endsWith_openSession ..⟩, ?_⟩
      · apply switched.concat rfl wellFormed
        intro previous isPrevious
        rw [List.getLast?_concat, Option.mem_some_iff] at isPrevious
        subst isPrevious
        exact ⟨by simp [close], Nat.lt_succ_of_le bound, fun _ => otherJob⟩
      · rw [shown_concat, shown_concat, shown_concat, opening_effects describes.clock,
          close_effects goesOn]
        simp [Ending.effects, cancelTimers, activeTimer, session?, sameTimer]

theorem Describes.reported (describes : Describes timing traces poller) {session after : Session}
    {effect : Effect} (polling : poller.phase = .polling session)
    (isReport : IsReport session.job effect) (sameTiming : next.timing = poller.timing)
    (sameTimer : next.lastTimer = poller.lastTimer) (goesOnWith : next.phase = .polling after)
    (timer : after.timer = session.timer) (job : after.job = session.job) :
    Extends timing traces next [effect] := by
  have current := describes.current
  rw [session?_eq_some_iff.mpr polling] at current
  rcases current with ⟨earlier, last, rfl, goesOn, lastTimer, lastJob⟩
  have recorded : Recorded timing (earlier ++ [last.report effect]) poller :=
    describes.toRecorded.replace_last _ rfl rfl
      ((describes.wellFormed last (by simp)).report (lastJob ▸ isReport))
  refine ⟨earlier ++ [last.report effect], ⟨?_, ?_⟩, ?_⟩
  · exact recorded.of_same_clock sameTiming sameTimer
  · rw [session?_eq_some_iff.mpr goesOnWith]
    exact ⟨earlier, last.report effect, rfl, goesOn, lastTimer.trans timer.symm,
      lastJob.trans job.symm⟩
  · rw [shown_concat, shown_concat, report_effects goesOn, List.append_assoc]

theorem Describes.closed (describes : Describes timing traces poller) {session : Session}
    (polling : poller.phase = .polling session) (ending : Ending)
    (notSwitched : ending ≠ .switched) (allowed : ending ≠ .finished .cancelled) :
    Extends timing traces { poller with phase := .stopped }
      (.cancelTimer session.timer :: ending.effects session.job) := by
  have current := describes.current
  rw [session?_eq_some_iff.mpr polling] at current
  rcases current with ⟨earlier, last, rfl, goesOn, lastTimer, lastJob⟩
  have recorded : Recorded timing (earlier ++ [last.close ending]) poller :=
    describes.toRecorded.replace_last _ rfl rfl
      ((describes.wellFormed last (by simp)).close allowed)
  refine ⟨earlier ++ [last.close ending], ⟨?_, ?_⟩, ?_⟩
  · exact recorded.of_same_clock rfl rfl
  · intro previous isPrevious
    rw [List.getLast?_concat, Option.mem_some_iff] at isPrevious
    subst isPrevious
    exact ⟨by simp [close], by simpa [close] using notSwitched⟩
  · rw [shown_concat, shown_concat, close_effects goesOn, List.append_assoc, lastTimer, lastJob]

theorem step_extends (describes : Describes timing traces poller) (operation : Operation) :
    Extends timing traces (poller.step operation).1 (poller.step operation).2 := by
  have move := step_moves poller operation
  generalize poller.step operation = stepped at move
  rcases stepped with ⟨next, effects⟩
  cases move with
  | ignored _ => exact describes.silent rfl rfl rfl
  | settled notPolling => exact describes.silent rfl rfl notPolling.symm
  | opened _ other => exact describes.opened _ other
  | asked polling =>
      exact describes.reported polling (.fetch _) rfl rfl polling rfl rfl
  | reported polling _ reports =>
      refine describes.reported polling ?_ rfl rfl rfl rfl rfl
      cases reports with
      | failure message => exact .fetchFailed message
      | progress newest _ _ => exact .update newest
  | finished polling _ ends =>
      exact describes.closed polling (.finished _) (by simp)
        (by simpa using ends.not_cancelled)
  | cancelled polling => exact describes.closed polling .cancelled (by simp) (by simp)

/-- After every list of operations the effects so far are those of some sessions. -/
theorem exists_describes (timing : PollTiming) (operations : List Operation) :
    ∃ traces, Describes timing traces ((new timing).after operations) ∧
      (new timing).effects operations = shown timing traces := by
  induction operations using List.reverseRecOn with
  | nil => exact ⟨[], describes_new timing, rfl⟩
  | append_singleton operations last induction =>
      rcases induction with ⟨traces, describes, shows⟩
      rcases step_extends describes last with ⟨extended, describesNext, showsNext⟩
      exact ⟨extended, by simpa using describesNext, by rw [effects_concat, shows, showsNext]⟩

/-! Which timers are armed. -/

/-- A timer is armed when it has been scheduled and not been cancelled. -/
def IsArmed (effects : List Effect) (timer : Nat) : Prop :=
  (∃ job delay period, .schedule timer job delay period ∈ effects) ∧
    .cancelTimer timer ∉ effects

theorem SessionTrace.WellFormed.schedule_mem_iff (wellFormed : trace.WellFormed timing)
    {timer : Nat} {job : String} {delay every period : Span} :
    .schedule timer job delay every ∈ trace.effects period ↔
      timer = trace.timer ∧ job = trace.job ∧ delay = trace.delay ∧ every = period := by
  have notReport : .schedule timer job delay every ∉ trace.reports := fun member =>
    nomatch wellFormed.reports _ member
  have notClosing : .schedule timer job delay every ∉ trace.closing := by
    rcases ending : trace.ending with _ | _ | _ | _ <;>
      simp [closing, ending, Ending.effects]
  simp [SessionTrace.effects, notReport, notClosing]

theorem SessionTrace.WellFormed.cancelTimer_mem_iff (wellFormed : trace.WellFormed timing)
    {timer : Nat} {period : Span} :
    .cancelTimer timer ∈ trace.effects period ↔
      trace.timer = timer ∧ trace.ending ≠ none := by
  have notReport : .cancelTimer timer ∉ trace.reports := fun member =>
    nomatch wellFormed.reports _ member
  rcases ending : trace.ending with _ | _ | _ | _ <;>
    simp [SessionTrace.effects, closing, ending, Ending.effects, notReport, eq_comm]

theorem Recorded.isArmed_iff (recorded : Recorded timing traces poller) (timer : Nat) :
    IsArmed (shown timing traces) timer ↔
      (∃ trace ∈ traces, trace.timer = timer) ∧
        ∀ trace ∈ traces, trace.timer = timer → trace.ending = none := by
  constructor
  · rintro ⟨⟨job, delay, every, scheduled⟩, notCancelled⟩
    rcases List.mem_flatMap.mp scheduled with ⟨trace, member, shows⟩
    have parts := (recorded.wellFormed trace member).schedule_mem_iff.mp shows
    refine ⟨⟨trace, member, parts.1.symm⟩, ?_⟩
    intro other otherMember sameTimer
    by_contra ended
    exact notCancelled (List.mem_flatMap.mpr ⟨other, otherMember,
      (recorded.wellFormed other otherMember).cancelTimer_mem_iff.mpr ⟨sameTimer, ended⟩⟩)
  · rintro ⟨⟨trace, member, sameTimer⟩, goesOn⟩
    constructor
    · refine ⟨trace.job, trace.delay, period timing, List.mem_flatMap.mpr ⟨trace, member, ?_⟩⟩
      exact (recorded.wellFormed trace member).schedule_mem_iff.mpr
        ⟨sameTimer.symm, rfl, rfl, rfl⟩
    · intro cancelled
      rcases List.mem_flatMap.mp cancelled with ⟨other, otherMember, shows⟩
      have parts := (recorded.wellFormed other otherMember).cancelTimer_mem_iff.mp shows
      exact parts.2 (goesOn other otherMember parts.1)

/-- What `Precedes` says of all pairs of sessions, and not only of neighbours. -/
def SessionTrace.Before (previous next : SessionTrace) : Prop :=
  previous.ending ≠ none ∧ previous.timer < next.timer

instance : Trans Before Before Before where
  trans first second := ⟨first.1, first.2.trans second.2⟩

theorem Recorded.ordered (recorded : Recorded timing traces poller) :
    traces.Pairwise Before :=
  (recorded.chained.imp fun _ _ precedes => ⟨precedes.ended, precedes.timers⟩).pairwise

theorem Describes.exists_of_activeTimer (describes : Describes timing traces poller)
    {timer : Nat} (active : poller.activeTimer = some timer) :
    ∃ trace ∈ traces, trace.timer = timer := by
  rcases activeTimer_eq_some_iff.mp active with ⟨session, polling, rfl⟩
  have current := describes.current
  rw [session?_eq_some_iff.mpr polling] at current
  rcases current with ⟨earlier, last, rfl, -, sameTimer, -⟩
  exact ⟨last, by simp, sameTimer⟩

/-- The session that goes on is the one on the active timer. -/
theorem Describes.goes_on_iff (describes : Describes timing traces poller)
    (member : trace ∈ traces) :
    trace.ending = none ↔ poller.activeTimer = some trace.timer := by
  have current := describes.current
  rcases List.eq_nil_or_concat' traces with rfl | ⟨earlier, last, rfl⟩
  · cases member
  have ordered := List.pairwise_append.mp describes.toRecorded.ordered
  cases session? : poller.session? with
  | none =>
      rw [session?] at current
      have lastEnded : last.ending ≠ none := (current last (by simp)).1
      have ended : trace.ending ≠ none := by
        rcases List.mem_append.mp member with isEarlier | isLast
        · exact (ordered.2.2 trace isEarlier last (by simp)).1
        · rwa [List.mem_singleton.mp isLast]
      simp [activeTimer, session?, ended]
  | some session =>
      rw [session?] at current
      rcases current with ⟨_, _, same, goesOn, sameTimer, -⟩
      rcases List.append_inj' same rfl with ⟨-, same⟩
      rw [List.singleton_inj] at same
      subst same
      have active : poller.activeTimer = some last.timer := by
        simp [activeTimer, session?, sameTimer]
      rcases List.mem_append.mp member with isEarlier | isLast
      · have before : Before trace last := ordered.2.2 trace isEarlier last (by simp)
        simp [active, before.1, before.2.ne']
      · simp [List.mem_singleton.mp isLast, active, goesOn]

theorem Describes.isArmed_iff (describes : Describes timing traces poller) (timer : Nat) :
    IsArmed (shown timing traces) timer ↔ poller.activeTimer = some timer := by
  rw [describes.toRecorded.isArmed_iff]
  constructor
  · rintro ⟨⟨trace, member, rfl⟩, goesOn⟩
    exact (describes.goes_on_iff member).mp (goesOn trace member rfl)
  · intro active
    refine ⟨describes.exists_of_activeTimer active, ?_⟩
    rintro trace member rfl
    exact (describes.goes_on_iff member).mpr active

theorem Describes.last_not_switched (describes : Describes timing traces poller) :
    ∀ last ∈ traces.getLast?, last.ending ≠ some .switched := by
  intro last isLast
  have current := describes.current
  cases session? : poller.session? with
  | none =>
      rw [session?] at current
      exact (current last isLast).2
  | some session =>
      rw [session?] at current
      rcases current with ⟨earlier, polled, rfl, goesOn, -⟩
      rw [List.getLast?_concat, Option.mem_some_iff] at isLast
      simp [← isLast, goesOn]

/-- The effects of any operations on a new poller are those of sessions, one after
another. The sessions before the last have ended, the last may go on, and it has
not given way to a job that never came. The timers strictly increase. The armed
timer is the active one while a job is polled, and otherwise there is none. -/
theorem effects_form_sessions (timing : PollTiming) (operations : List Operation) :
    ∃ traces : List SessionTrace,
      (new timing).effects operations =
          traces.flatMap (SessionTrace.effects (period timing)) ∧
        (∀ trace ∈ traces, trace.WellFormed timing) ∧
        traces.IsChain Precedes ∧
        (traces.map (·.timer)).Pairwise (· < ·) ∧
        (∀ last ∈ traces.getLast?, last.ending ≠ some .switched) ∧
        (∀ trace ∈ traces, trace.ending = none ↔
          ((new timing).after operations).activeTimer = some trace.timer) ∧
        (∀ timer, IsArmed ((new timing).effects operations) timer ↔
          (∃ session, ((new timing).after operations).phase = .polling session) ∧
            ((new timing).after operations).activeTimer = some timer) := by
  rcases exists_describes timing operations with ⟨traces, describes, shows⟩
  refine ⟨traces, shows, describes.wellFormed, describes.chained, ?_,
    describes.last_not_switched, fun _ => describes.goes_on_iff, ?_⟩
  · rw [List.pairwise_map]
    exact describes.toRecorded.ordered.imp fun before => before.2
  · intro timer
    rw [shows, describes.isArmed_iff]
    constructor
    · intro active
      rcases activeTimer_eq_some_iff.mp active with ⟨session, polling, -⟩
      exact ⟨⟨session, polling⟩, active⟩
    · exact And.right

end ExportWatch.Poller

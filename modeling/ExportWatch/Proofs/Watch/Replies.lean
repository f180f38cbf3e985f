import ExportWatch.Proofs.Watch.Account
import Mathlib.Data.List.Forall2

/-! A watch that nobody interrupts. What it asks for and what it reports depends on what the
replies say, and not on the timing or on how long the replies take. -/

namespace ExportWatch

open Poller (Ends)

/-! An answer is reported or it ends the polling, in one way only. -/

section Answer

variable {outcome : Except Causes (List Run)} {event other : WatchEvent}
  {reason otherReason : StopReason}

theorem Reported.not_ends (reported : Reported outcome event) : ¬ Ends outcome reason := by
  intro ends
  cases reported with
  | failure causes => cases ends
  | progress newest others running =>
      cases ends with
      | terminal _ _ terminal =>
          rw [running] at terminal
          cases terminal

theorem Reported.unique (reported : Reported outcome event) (again : Reported outcome other) :
    event = other := by
  cases reported with
  | failure causes =>
      cases again
      rfl
  | progress newest others running =>
      cases again
      rfl

theorem Poller.Ends.unique (ends : Ends outcome reason) (again : Ends outcome otherReason) :
    reason = otherReason := by
  cases ends with
  | empty =>
      cases again
      rfl
  | terminal newest others terminal =>
      cases again
      rfl

theorem reported_of_not_ends (goesOn : ∀ reason, ¬ Ends outcome reason) :
    ∃ event, Reported outcome event := by
  cases outcome with
  | error causes => exact ⟨_, .failure causes⟩
  | ok runs =>
      cases runs with
      | nil => exact absurd .empty (goesOn .noRuns)
      | cons newest others =>
          cases terminal : newest.isTerminal with
          | true => exact absurd (.terminal newest others terminal) (goesOn _)
          | false => exact ⟨_, .progress newest others terminal⟩

end Answer

/-- What the replies to a watch say. Replies to the calls that come after others are counted by
the calls for the latest runs before them. -/
structure Replies where
  rerun : Except Causes Run
  latest : Nat → Except Causes (List Run)
  completed : Nat → Except Causes (List Run)

namespace Replies

variable {replies other : Replies} {kickoff : Watch.Kickoff} {count : Nat}

/-- The first answers about the latest runs. -/
def answers (replies : Replies) (count : Nat) : List (Except Causes (List Run)) :=
  (List.range count).map replies.latest

/-- None of the first answers ends the polling. -/
def GoesOn (replies : Replies) (count : Nat) : Prop :=
  ∀ earlier < count, ∀ reason, ¬ Ends (replies.latest earlier) reason

/-- Two watches hear the same, up to the answer that ends the polling. -/
structure Same (kickoff : Watch.Kickoff) (replies other : Replies) : Prop where
  rerun : kickoff = .rerun → replies.rerun = other.rerun
  latest : ∀ count, replies.GoesOn count → replies.latest count = other.latest count
  completed : ∀ count reason, replies.GoesOn count → Ends (replies.latest count) reason →
    replies.completed (count + 1) = other.completed (count + 1)

theorem answers_succ (replies : Replies) (count : Nat) :
    replies.answers (count + 1) = replies.answers count ++ [replies.latest count] := by
  rw [answers, List.range_succ, List.map_append]
  rfl

theorem GoesOn.mono {fewer : Nat} (goesOn : replies.GoesOn count) (le : fewer ≤ count) :
    replies.GoesOn fewer :=
  fun earlier before => goesOn earlier (Nat.lt_of_lt_of_le before le)

/-- Until the polling ends there is one report for each answer. -/
theorem goesOn_iff : replies.GoesOn count ↔
    ∃ events, List.Forall₂ Reported (replies.answers count) events := by
  constructor
  · intro goesOn
    induction count with
    | zero => exact ⟨[], .nil⟩
    | succ count induction =>
        rcases induction (goesOn.mono (Nat.le_succ count)) with ⟨events, reported⟩
        rcases reported_of_not_ends (goesOn count (Nat.lt_succ_self count)) with ⟨event, last⟩
        rw [answers_succ]
        exact ⟨events ++ [event], List.rel_append reported (.cons last .nil)⟩
  · rintro ⟨events, reported⟩ earlier before reason
    have answered : earlier < (replies.answers count).length := by
      rwa [answers, List.length_map, List.length_range]
    rcases List.forall₂_iff_get.mp reported with ⟨sameLength, each⟩
    have report := each earlier answered (sameLength ▸ answered)
    have isAnswer : (replies.answers count).get ⟨earlier, answered⟩ = replies.latest earlier := by
      simp [answers]
    rw [isAnswer] at report
    exact report.not_ends

theorem last_unique {last otherLast : Nat} {reason otherReason : StopReason}
    (goesOn : replies.GoesOn last) (ends : Ends (replies.latest last) reason)
    (otherGoesOn : replies.GoesOn otherLast)
    (otherEnds : Ends (replies.latest otherLast) otherReason) : last = otherLast := by
  rcases Nat.lt_trichotomy last otherLast with earlier | same | later
  · exact absurd ends (otherGoesOn last earlier reason)
  · exact same
  · exact absurd otherEnds (goesOn otherLast later otherReason)

theorem Same.answers (same : Same kickoff replies other) (goesOn : replies.GoesOn count) :
    replies.answers count = other.answers count := by
  apply List.map_congr_left
  intro earlier member
  exact same.latest earlier (goesOn.mono (Nat.le_of_lt (List.mem_range.mp member)))

end Replies

/-! The course of a watch, told by what the replies say. -/

/-- Calls for the latest runs, each followed by the report on the answer. -/
def polled (job : String) (events : List WatchEvent) : List Occurrence :=
  events.flatMap fun event => [.call .latestRuns job, .event event]

def ended (job : String) (reason : StopReason) (completed : Except Causes (List Run)) :
    List Occurrence :=
  [.call .latestRuns job, .event (.stopped job reason), .call .completedRuns job,
    .event (Watch.reloadReport job completed)]

theorem polled_concat (job : String) (events : List WatchEvent) (event : WatchEvent) :
    polled job (events ++ [event]) =
      polled job events ++ [.call .latestRuns job, .event event] := by
  rw [polled, List.flatMap_append]
  rfl

/-- What a watch leaves behind, and its verdict, when each turn brings one answer. -/
inductive Told (replies : Replies) (job : String) (opening : List Occurrence) (turns : Nat) :
    List Occurrence → Option (Except Causes (Option StopReason)) → Prop
  | polling {events : List WatchEvent} :
      List.Forall₂ Reported (replies.answers turns) events →
      Told replies job opening turns (opening ++ polled job events) none
  | ended {last : Nat} {events : List WatchEvent} {reason : StopReason} :
      last < turns →
      List.Forall₂ Reported (replies.answers last) events →
      Ends (replies.latest last) reason →
      Told replies job opening turns
        (opening ++ polled job events ++ ended job reason (replies.completed (last + 1)))
        (some (.ok (some reason)))

namespace Told

variable {replies other : Replies} {job : String} {opening trace otherTrace : List Occurrence}
  {turns : Nat} {verdict otherVerdict : Option (Except Causes (Option StopReason))}

theorem events_unique {answers : List (Except Causes (List Run))} {events others : List WatchEvent}
    (reported : List.Forall₂ Reported answers events)
    (again : List.Forall₂ Reported answers others) : events = others :=
  List.right_unique_forall₂' (fun _ _ _ first second => first.unique second) reported again

theorem unique (told : Told replies job opening turns trace verdict)
    (again : Told replies job opening turns otherTrace otherVerdict) :
    trace = otherTrace ∧ verdict = otherVerdict := by
  cases told with
  | polling reported =>
      cases again with
      | polling othersReported => exact ⟨by rw [events_unique reported othersReported], rfl⟩
      | ended before _ ends =>
          exact absurd ends (Replies.goesOn_iff.mpr ⟨_, reported⟩ _ before _)
  | @ended last events reason before reported ends =>
      cases again with
      | polling othersReported =>
          exact absurd ends (Replies.goesOn_iff.mpr ⟨_, othersReported⟩ _ before _)
      | ended _ othersReported otherEnds =>
          have sameLast := Replies.last_unique (Replies.goesOn_iff.mpr ⟨_, reported⟩) ends
            (Replies.goesOn_iff.mpr ⟨_, othersReported⟩) otherEnds
          subst sameLast
          rw [events_unique reported othersReported, ends.unique otherEnds]
          exact ⟨rfl, rfl⟩

theorem congr {kickoff : Watch.Kickoff} (told : Told replies job opening turns trace verdict)
    (same : Replies.Same kickoff replies other) : Told other job opening turns trace verdict := by
  cases told with
  | polling reported =>
      rw [same.answers (Replies.goesOn_iff.mpr ⟨_, reported⟩)] at reported
      exact .polling reported
  | @ended last events reason before reported ends =>
      have goesOn := Replies.goesOn_iff.mpr ⟨_, reported⟩
      rw [same.completed last reason goesOn ends]
      rw [same.answers goesOn] at reported
      rw [same.latest last goesOn] at ends
      exact .ended before reported ends

end Told

/-! What a backend says. -/

namespace Backend

variable {State : Type}

/-- The state in which polling begins. -/
def opened (backend : Backend State) (job : String) (state : State) : Watch.Kickoff → State
  | .observe _ => state
  | .rerun => (backend.rerun job state).2

/-- The state after calls for the latest runs. -/
def reached (backend : Backend State) (job : String) (state : State) : Nat → State
  | 0 => state
  | count + 1 => (backend.latestRuns job (backend.reached job state count)).2

def replies (backend : Backend State) (job : String) (kickoff : Watch.Kickoff) (state : State) :
    Replies where
  rerun := (backend.rerun job state).1.outcome
  latest count :=
    (backend.latestRuns job (backend.reached job (backend.opened job state kickoff) count)).1.outcome
  completed count :=
    (backend.completedRuns job
      (backend.reached job (backend.opened job state kickoff) count)).1.outcome

section Replies

variable (backend : Backend State) (job : String) (kickoff : Watch.Kickoff) (state : State)
  (count : Nat)

theorem reached_succ : backend.reached job state (count + 1) =
    (backend.latestRuns job (backend.reached job state count)).2 :=
  rfl

theorem replies_latest : (backend.replies job kickoff state).latest count =
    (backend.latestRuns job
      (backend.reached job (backend.opened job state kickoff) count)).1.outcome :=
  rfl

theorem replies_completed : (backend.replies job kickoff state).completed count =
    (backend.completedRuns job
      (backend.reached job (backend.opened job state kickoff) count)).1.outcome :=
  rfl

end Replies

/-- No commands come with the replies that polling depends on. -/
structure Quiet (backend : Backend State) (job : String) (kickoff : Watch.Kickoff)
    (state : State) : Prop where
  rerun : kickoff = .rerun → (backend.rerun job state).1.commands = []
  latest : ∀ count, (backend.latestRuns job
    (backend.reached job (backend.opened job state kickoff) count)).1.commands = []

end Backend

namespace Watch

variable {State : Type} {backend : Backend State} {job : String} {kickoff : Kickoff}
  {state : State} {opening : List Occurrence}

theorem turn_of_no_command {watch : Watch State} {session : Session} {timer : Timer}
    (follows : Follows watch job session timer) (waiting : watch.waiting = [])
    (coming : watch.coming = []) (tickFirst : Precedence State) :
    ∃ next, watch.turn backend tickFirst = .running next ∧
      Round backend watch job session timer next := by
  rcases turn_of_follows backend follows tickFirst with fired | ⟨command, arrived, next, -⟩
  · exact fired
  · rw [nextCommand, waiting, coming] at next
    cases next

section Course

variable (backend job kickoff state opening)

/-- A watch that is not interrupted asks once in each turn, until an answer ends the polling. -/
inductive Course : Nat → Stage State → Prop
  | polling {turns : Nat} {watch : Watch State} {session : Session} {timer : Timer}
      {events : List WatchEvent} :
      Follows watch job session timer → watch.waiting = [] → watch.coming = [] →
      watch.state = backend.reached job (backend.opened job state kickoff) turns →
      List.Forall₂ Reported ((backend.replies job kickoff state).answers turns) events →
      watch.trace = opening ++ polled job events →
      Course turns (.running watch)
  | stopping {last : Nat} {watch : Watch State} {events : List WatchEvent} {reason : StopReason} :
      watch.stopped = some reason →
      List.Forall₂ Reported ((backend.replies job kickoff state).answers last) events →
      Ends ((backend.replies job kickoff state).latest last) reason →
      watch.trace = opening ++ polled job events ++
        ended job reason ((backend.replies job kickoff state).completed (last + 1)) →
      Course (last + 1) (.running watch)
  | finished {last turns : Nat} {ending : Ending State} {events : List WatchEvent}
      {reason : StopReason} :
      last + 1 < turns →
      List.Forall₂ Reported ((backend.replies job kickoff state).answers last) events →
      Ends ((backend.replies job kickoff state).latest last) reason →
      ending.outcome = .ok (some reason) →
      ending.watch.trace = opening ++ polled job events ++
        ended job reason ((backend.replies job kickoff state).completed (last + 1)) →
      Course turns (.finished ending)

end Course

namespace Course

variable {passed : Nat}

theorem told {stage : Stage State}
    (course : Course backend job kickoff state opening passed stage) :
    Told (backend.replies job kickoff state) job opening passed stage.watch.trace
      stage.verdict := by
  cases course with
  | polling follows _ _ _ reported whole =>
      rw [Stage.verdict, follows.going, Stage.watch, whole]
      exact .polling reported
  | @stopping last _ _ _ stopped reported ends whole =>
      rw [Stage.verdict, stopped, Stage.watch, whole]
      exact .ended (Nat.lt_succ_self last) reported ends
  | finished before reported ends outcome whole =>
      rw [Stage.verdict, outcome, Stage.watch, whole]
      exact .ended (Nat.lt_of_succ_lt before) reported ends

theorem turn {watch : Watch State} (quiet : backend.Quiet job kickoff state)
    (course : Course backend job kickoff state opening passed (.running watch))
    (tickFirst : Precedence State) :
    Course backend job kickoff state opening (passed + 1) (watch.turn backend tickFirst) := by
  cases course with
  | @polling _ _ session timer events follows waiting coming sameState reported whole =>
      have answer : (watch.askRuns backend timer job).2 =
          (backend.replies job kickoff state).latest passed := by
        rw [Backend.replies_latest, ← sameState]
        rfl
      have commands : (backend.latestRuns job watch.state).1.commands = [] := by
        rw [sameState]
        exact quiet.latest passed
      rcases turn_of_no_command follows waiting coming tickFirst with ⟨next, turned, round⟩
      rw [turned]
      cases round with
      | @reported event report =>
          rw [answer] at report
          have all : List.Forall₂ Reported
              ((backend.replies job kickoff state).answers (passed + 1)) (events ++ [event]) := by
            rw [Replies.answers_succ]
            exact List.rel_append reported (.cons report .nil)
          refine .polling (follows.reported event) ?_ coming ?_ all ?_
          · exact List.append_eq_nil_iff.mpr ⟨waiting, commands⟩
          · rw [Backend.reached_succ, ← sameState]
            rfl
          · rw [trace_reported, whole, polled_concat, List.append_assoc]
      | ended ends =>
          rw [answer] at ends
          refine .stopping rfl reported ends ?_
          rw [trace_ended, whole, Backend.replies_completed, Backend.reached_succ, ← sameState]
          rfl
  | @stopping last _ _ _ stopped reported ends whole =>
      rw [turn_of_stopped stopped]
      exact .finished (Nat.lt_succ_self _) reported ends rfl whole

theorem turns (quiet : backend.Quiet job kickoff state) {stage : Stage State} {before : Nat}
    (course : Course backend job kickoff state opening before stage) (tickFirst : Precedence State)
    (count : Nat) :
    Course backend job kickoff state opening (before + count)
      (turns backend tickFirst count stage) := by
  induction count generalizing stage before with
  | zero => exact course
  | succ count induction =>
      rw [← Nat.add_assoc, Nat.add_right_comm]
      cases stage with
      | running watch => exact induction (course.turn quiet tickFirst)
      | finished ending =>
          cases course with
          | finished earlier reported ends outcome whole =>
              exact .finished (by omega) reported ends outcome whole

end Course

theorem Course.finishes {last count : Nat} {reason : StopReason} {stage : Stage State}
    (course : Course backend job kickoff state opening count stage) (enough : last + 2 ≤ count)
    (goesOn : (backend.replies job kickoff state).GoesOn last)
    (ends : Ends ((backend.replies job kickoff state).latest last) reason) :
    ∃ ending, stage = .finished ending ∧ ending.outcome = .ok (some reason) := by
  cases course with
  | polling _ _ _ _ reported _ =>
      exact absurd ends (Replies.goesOn_iff.mpr ⟨_, reported⟩ last (by omega) reason)
  | stopping _ reported otherEnds _ =>
      have same := Replies.last_unique goesOn ends (Replies.goesOn_iff.mpr ⟨_, reported⟩) otherEnds
      omega
  | finished _ reported otherEnds outcome _ =>
      have same := Replies.last_unique goesOn ends (Replies.goesOn_iff.mpr ⟨_, reported⟩) otherEnds
      subst same
      exact ⟨_, rfl, ends.unique otherEnds ▸ outcome⟩

/-- The kickoffs that do not start polling. -/
inductive Closed (backend : Backend State) (job : String) (state : State) :
    Kickoff → List Occurrence → Except Causes (Option StopReason) → Prop
  | idle {runs : List Run} :
      runs.head?.all (·.isTerminal) = true →
      Closed backend job state (.observe runs) [.event (idleNotice job)] (.ok none)
  | refused {causes : Causes} :
      (backend.rerun job state).1.outcome = .error causes →
      Closed backend job state .rerun [.call .rerun job] (.error causes)

theorem Closed.followed {trace : List Occurrence} {outcome : Except Causes (Option StopReason)}
    (closed : Closed backend job state kickoff trace outcome) (timing : PollTiming)
    (tickFirst : Precedence State) (count : Nat) :
    ((Watch.new timing state []).followed backend tickFirst count job kickoff).watch.trace = trace ∧
      ((Watch.new timing state []).followed backend tickFirst count job kickoff).verdict =
        some outcome := by
  have idle : (Watch.new timing state []).poller.phase = .idle := rfl
  cases closed with
  | @idle runs terminal =>
      rcases kickOff_of_idle backend idle job (.observe runs) with
        ⟨_, ⟨⟩, -, kicked⟩ | ⟨_, _, ⟨⟩, running, -⟩ | ⟨_, ⟨⟩, -⟩ | ⟨_, ⟨⟩, -⟩
      · rw [followed_of_finished kicked]
        exact ⟨rfl, rfl⟩
      · rw [List.head?_cons, Option.all_some, running] at terminal
        cases terminal
  | @refused causes refused =>
      rcases kickOff_of_idle backend idle job .rerun with
        ⟨_, ⟨⟩, -⟩ | ⟨_, _, ⟨⟩, -⟩ | ⟨_, -, outcome, kicked⟩ | ⟨_, -, outcome, -⟩
      · change (backend.rerun job state).1.outcome = _ at outcome
        rw [refused, Except.error.injEq] at outcome
        rw [followed_of_finished kicked, outcome]
        exact ⟨rfl, rfl⟩
      · change (backend.rerun job state).1.outcome = _ at outcome
        rw [refused] at outcome
        cases outcome

end Watch

/-! Two watches that hear the same. -/

section Same

variable {State Other : Type} {backend : Backend State} {other : Backend Other} {job : String}
  {kickoff : Watch.Kickoff} {state : State} {otherState : Other}

theorem Opening.same {opening : List Occurrence} {opened : State}
    (opens : Opening backend job state kickoff opening opened)
    (same : (backend.replies job kickoff state).Same kickoff
      (other.replies job kickoff otherState)) :
    Opening other job otherState kickoff opening (other.opened job otherState kickoff) := by
  cases opens with
  | observed running => exact .observed running
  | rerun asked =>
      have sameReply : (backend.rerun job state).1.outcome =
          (other.rerun job otherState).1.outcome := same.rerun rfl
      rw [sameReply] at asked
      exact .rerun asked

theorem Watch.Closed.same {trace : List Occurrence} {outcome : Except Causes (Option StopReason)}
    (closed : Watch.Closed backend job state kickoff trace outcome)
    (same : (backend.replies job kickoff state).Same kickoff
      (other.replies job kickoff otherState)) :
    Watch.Closed other job otherState kickoff trace outcome := by
  cases closed with
  | idle terminal => exact .idle terminal
  | refused asked =>
      have sameReply : (backend.rerun job state).1.outcome =
          (other.rerun job otherState).1.outcome := same.rerun rfl
      rw [sameReply] at asked
      exact .refused asked

end Same

namespace Script

variable {script other : Script} {job : String} {kickoff : Watch.Kickoff}

theorem opened_eq (script : Script) (job : String) (kickoff : Watch.Kickoff) :
    backend.opened job script kickoff = script := by
  cases kickoff <;> rfl

theorem reached_eq (script : Script) (job : String) (count : Nat) :
    backend.reached job script count = { script with latest := script.latest.drop count } := by
  induction count with
  | zero => rfl
  | succ count induction =>
      rw [Backend.reached_succ, induction, ← List.tail_drop]
      cases later : script.latest.drop count <;> simp [backend, takeReply]

theorem latest_eq (script : Script) (job : String) (count : Nat) :
    (backend.latestRuns job (backend.reached job script count)).1 =
      script.latest[count]?.getD ⟨.ok [], ⟨0⟩, []⟩ := by
  rw [reached_eq, ← List.head?_drop]
  cases later : script.latest.drop count <;> simp [backend, takeReply]

theorem quiet (noCommand : ∀ reply ∈ script.latest, reply.commands = [])
    (noneWithRerun : script.rerun.commands = []) : backend.Quiet job kickoff script := by
  refine ⟨fun _ => noneWithRerun, ?_⟩
  intro count
  rw [opened_eq, latest_eq]
  cases found : script.latest[count]? with
  | none => rfl
  | some reply => exact noCommand reply (List.mem_of_getElem? found)

theorem outcome_takeReply (replies : List (Reply (List Run))) :
    (takeReply replies).1.outcome = (replies.map (·.outcome)).head?.getD (.ok []) := by
  cases replies <;> rfl

/-- Only the delays and the commands of two scripts may differ. -/
theorem same (rerun : script.rerun.outcome = other.rerun.outcome)
    (latest : script.latest.map (·.outcome) = other.latest.map (·.outcome))
    (completed : script.completed.map (·.outcome) = other.completed.map (·.outcome)) :
    (backend.replies job kickoff script).Same kickoff (backend.replies job kickoff other) := by
  have heard (script : Script) (count : Nat) : (backend.replies job kickoff script).latest count =
      ((script.latest.map (·.outcome)).drop count).head?.getD (.ok []) := by
    rw [Backend.replies_latest, opened_eq, reached_eq, ← List.map_drop]
    exact outcome_takeReply _
  have reloaded (script : Script) (count : Nat) :
      (backend.replies job kickoff script).completed count =
        (script.completed.map (·.outcome)).head?.getD (.ok []) := by
    rw [Backend.replies_completed, opened_eq, reached_eq]
    exact outcome_takeReply _
  refine ⟨fun _ => rerun, ?_, ?_⟩
  · intro count _
    rw [heard, heard, latest]
  · intro count reason _ _
    rw [reloaded, reloaded, completed]

end Script

end ExportWatch

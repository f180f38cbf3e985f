import ExportWatch.Proofs.Watch.Replies

/-! How a watch is completed. When the polling ended of itself, the completed runs are asked for,
and if they are there they are reported once, at the end. Otherwise they are never reported. -/

namespace ExportWatch

open Poller (Ends)

/-- The completed runs that an occurrence tells of, and the job that they belong to. -/
def Occurrence.completed? : Occurrence → Option (String × List Run)
  | .event (.completedRuns job runs) => some (job, runs)
  | _ => none

open Occurrence (completed?)

variable {State : Type} {backend : Backend State} {job : String} {kickoff : Watch.Kickoff}
variable {state opened last : State} {occurrences : List Occurrence}

/-! Only a closing reports completed runs. What a call is answered is known from the calls
before it. -/

theorem Opening.completed (opens : Opening backend job state kickoff occurrences opened) :
    occurrences.filterMap completed? = [] := by
  cases opens <;> rfl

theorem Opening.asked (opens : Opening backend job state kickoff occurrences opened) :
    occurrences.count (.call .latestRuns job) = 0 := by
  cases opens <;> simp

theorem Opening.state_eq (opens : Opening backend job state kickoff occurrences opened) :
    opened = backend.opened job state kickoff := by
  cases opens <;> rfl

theorem Reported.completed {outcome : Except Causes (List Run)} {event : WatchEvent}
    (reported : Reported outcome event) : (Occurrence.event event).completed? = none := by
  cases reported <;> rfl

theorem Rounds.completed (rounds : Rounds backend job opened occurrences last) :
    occurrences.filterMap completed? = [] := by
  induction rounds with
  | none => rfl
  | next _ reported induction =>
      rw [List.filterMap_append, induction, List.nil_append, List.filterMap_cons_none rfl,
        List.filterMap_cons_none reported.completed]
      rfl

theorem Rounds.state_eq (rounds : Rounds backend job opened occurrences last) :
    last = backend.reached job opened (occurrences.count (.call .latestRuns job)) := by
  induction rounds with
  | none => rfl
  | next _ _ induction =>
      rw [List.count_append, List.count_cons_self, List.count_cons_of_ne (by simp), List.count_nil,
        Backend.reached_succ, ← induction]

theorem Poller.Ends.newest {outcome : Except Causes (List Run)} {status : RunStatus}
    (ends : Ends outcome (.terminal status)) :
    ∃ newest others, outcome = .ok (newest :: others) ∧ newest.status = status := by
  cases ends with
  | terminal newest others _ => exact ⟨newest, others, rfl, rfl⟩

namespace Watch

theorem completed?_reloadReport (job : String) (outcome : Except Causes (List Run)) :
    [Occurrence.event (reloadReport job outcome)].filterMap completed? =
      (outcome.toOption.map (job, ·)).toList := by
  cases outcome <;> rfl

namespace Ending

/-- How often the latest runs were asked for. -/
def asked (job : String) (ending : Ending State) : Nat :=
  ending.watch.trace.count (.call .latestRuns job)

/-- The completed runs, when the newest run is finished or no runs are left, and the reply to the
call for them was there. -/
def reloaded? (replies : Replies) (job : String) (ending : Ending State) : Option (List Run) :=
  match ending.outcome with
  | .ok (some (.terminal _)) | .ok (some .noRuns) => (replies.completed (ending.asked job)).toOption
  | _ => none

/-- The ending shows what the replies were. -/
structure Shows (replies : Replies) (job : String) (ending : Ending State) : Prop where
  completed : ending.watch.trace.filterMap completed? =
    ((ending.reloaded? replies job).map (job, ·)).toList
  newest : ∀ status, ending.outcome = .ok (some (.terminal status)) →
    ∃ newest others, replies.latest (ending.asked job - 1) = .ok (newest :: others) ∧
      newest.status = status

variable {ending : Ending State} {reason : StopReason}

theorem reloaded?_of_reason (replies : Replies) (stopped : ending.outcome = .ok (some reason))
    (notCancelled : reason ≠ .cancelled) :
    ending.reloaded? replies job = (replies.completed (ending.asked job)).toOption := by
  cases reason with
  | terminal status => simp [reloaded?, stopped]
  | noRuns => simp [reloaded?, stopped]
  | cancelled => exact absurd rfl notCancelled

theorem shows_of_ended {opening rounds : List Occurrence}
    (opens : Opening backend job state kickoff opening opened)
    (rounded : Rounds backend job opened rounds last)
    (ends : Ends (backend.latestRuns job last).1.outcome reason)
    (whole : ending.watch.trace = opening ++ rounds ++
      [.call .latestRuns job, .event (.stopped job reason), .call .completedRuns job,
        .event (reloadReport job
          (backend.completedRuns job (backend.latestRuns job last).2).1.outcome)])
    (stopped : ending.outcome = .ok (some reason)) :
    ending.Shows (backend.replies job kickoff state) job := by
  have asked : ending.asked job = rounds.count (.call .latestRuns job) + 1 := by
    rw [Ending.asked, whole, List.count_append, List.count_append, opens.asked, Nat.zero_add]
    cases (backend.completedRuns job (backend.latestRuns job last).2).1.outcome <;>
      simp [reloadReport]
  have lastState : last = backend.reached job (backend.opened job state kickoff)
      (rounds.count (.call .latestRuns job)) := opens.state_eq ▸ rounded.state_eq
  have completed : (backend.replies job kickoff state).completed (ending.asked job) =
      (backend.completedRuns job (backend.latestRuns job last).2).1.outcome := by
    rw [asked, Backend.replies_completed, Backend.reached_succ, ← lastState]
  have latest : (backend.replies job kickoff state).latest (ending.asked job - 1) =
      (backend.latestRuns job last).1.outcome := by
    rw [asked, Nat.add_sub_cancel, Backend.replies_latest, ← lastState]
  constructor
  · rw [reloaded?_of_reason _ stopped ends.not_cancelled, completed, whole, List.filterMap_append,
      List.filterMap_append, opens.completed, rounded.completed, ← completed?_reloadReport]
    rfl
  · rw [stopped, latest]
    rintro status ⟨⟩
    exact ends.newest

/-- A watch that did not end of itself has nothing to report. -/
theorem shows_of_no_end {replies : Replies}
    (unreported : ending.watch.trace.filterMap completed? = [])
    (notReloaded : ending.reloaded? replies job = none)
    (notTerminal : ∀ status, ending.outcome ≠ .ok (some (.terminal status))) :
    ending.Shows replies job where
  completed := by rw [unreported, notReloaded]; rfl
  newest := fun status terminal => absurd terminal (notTerminal status)

theorem shows_of_account (account : Account backend job kickoff state ending.watch.trace
    (some ending.outcome)) : ending.Shows (backend.replies job kickoff state) job := by
  rcases ending with ⟨outcome, watch⟩
  dsimp only at account
  generalize whole : watch.trace = trace at account
  cases account with
  | idle _ _ => exact shows_of_no_end (by rw [whole]; rfl) rfl nofun
  | refused _ _ => exact shows_of_no_end (by rw [whole]; rfl) rfl nofun
  | finished opens rounds closes =>
      cases closes with
      | left _ =>
          refine shows_of_no_end ?_ rfl nofun
          rw [whole, List.filterMap_append, List.filterMap_append, opens.completed,
            rounds.completed]
          rfl
      | cancelled =>
          refine shows_of_no_end ?_ rfl nofun
          rw [whole, List.filterMap_append, List.filterMap_append, opens.completed,
            rounds.completed]
          rfl
      | ended ends => exact shows_of_ended opens rounds ends whole rfl

/-- Whatever is asked of a watch, and whichever goes first, its ending shows the replies. -/
theorem shows_of_followed {tickFirst : Precedence State} {count : Nat} {timing : PollTiming}
    {coming : List (Moment × Command)}
    (ended : ((Watch.new timing state coming).followed backend tickFirst count job
      kickoff).ending? = some ending) : ending.Shows (backend.replies job kickoff state) job := by
  have kept : Kept backend job kickoff state coming
      ((Watch.new timing state coming).followed backend tickFirst count job kickoff) :=
    kept_followed timing coming tickFirst count
  generalize (Watch.new timing state coming).followed backend tickFirst count job kickoff =
    stage at kept ended
  cases kept with
  | going _ _ _ _ _ => cases ended
  | stopping _ _ _ => cases ended
  | finished _ account =>
      cases ended
      exact shows_of_account account

end Ending

end Watch

end ExportWatch

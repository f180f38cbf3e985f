import ExportWatch.Program.Following
import ExportWatch.Proofs.Watch.Turn

/-! Interrupts while a server is watched. The first one that is taken asks for the polling to stop,
and nothing is taken after it. So a watch that has begun to poll is not left before it stops. -/

namespace ExportWatch

variable {State : Type}

namespace Connection

variable {connection : Connection State}

theorem head?_commands {count : Nat} {first : Command}
    (isFirst : first ∈ (commands false count).head?) : first = .cancel := by
  cases count with
  | zero => cases isFirst
  | succ count =>
      cases isFirst
      rfl

theorem eq_zero_of_commands {interrupted : Bool} {count : Nat}
    (none : commands interrupted count = []) : count = 0 := by
  cases count with
  | zero => rfl
  | succ count => cases none

end Connection

namespace Surroundings

theorem head?_coming (surroundings : Surroundings State) {first : Moment × Command}
    (isFirst : first ∈ surroundings.coming.head?) : first.2 = .cancel := by
  rw [coming] at isFirst
  cases interrupts : surroundings.interrupts with
  | nil =>
      rw [interrupts] at isFirst
      cases isFirst
  | cons moment moments =>
      rw [interrupts] at isFirst
      cases isFirst
      rfl

end Surroundings

namespace Watch

variable {client : Client} {transport : Transport State} {job : String}
  {watch : Watch (Connection State)}

/-- No interrupt has been taken yet, and the one that is taken first will ask to stop. -/
structure Undisturbed (watch : Watch (Connection State)) : Prop where
  waiting : ∀ first ∈ watch.waiting.head?, first = .cancel
  unnoted : watch.waiting = [] → watch.state.interrupted = false
  coming : ∀ first ∈ watch.coming.head?, first.2 = .cancel

theorem Undisturbed.call {α : Type} (undisturbed : Undisturbed watch) (call : Call)
    (question : Question α) :
    Undisturbed (watch.call call job (Connection.reply client transport question)).1 := by
  rcases undisturbed with ⟨waiting, unnoted, coming⟩
  generalize answer : client.ask transport question watch.state.server = answered
  rcases answered with ⟨⟨outcome, delay, interrupts⟩, server⟩
  have called : (watch.call call job (Connection.reply client transport question)).1.waiting =
      watch.waiting ++ Connection.commands watch.state.interrupted interrupts := by
    simp only [Watch.call, Connection.reply, answer, note]
  have state : (watch.call call job (Connection.reply client transport question)).1.state =
      ⟨server, watch.state.interrupted || interrupts != 0⟩ := by
    simp only [Watch.call, Connection.reply, answer]
  refine ⟨?_, ?_, coming⟩
  · rw [called]
    cases earlier : watch.waiting with
    | nil =>
        rw [unnoted earlier]
        exact fun first isFirst => Connection.head?_commands isFirst
    | cons head tail =>
        rw [earlier] at waiting
        exact waiting
  · rw [called, state]
    intro none
    rcases List.append_eq_nil_iff.mp none with ⟨noneBefore, noneNow⟩
    rw [unnoted noneBefore, Connection.eq_zero_of_commands noneNow]
    rfl

theorem Undisturbed.cancels (undisturbed : Undisturbed watch) {command : Command}
    {arrived : Watch (Connection State)} (next : watch.nextCommand = some (command, arrived)) :
    command = .cancel := by
  cases waiting : watch.waiting with
  | cons head tail =>
      simp only [nextCommand, waiting] at next
      cases next
      exact undisturbed.waiting _ (by rw [waiting]; rfl)
  | nil =>
      cases coming : watch.coming with
      | cons head tail =>
          simp only [nextCommand, waiting, coming] at next
          cases next
          exact undisturbed.coming head (by rw [coming]; rfl)
      | nil =>
          simp only [nextCommand, waiting, coming] at next
          cases next

theorem Undisturbed.asked (undisturbed : Undisturbed watch) (timer : Timer) :
    Undisturbed (watch.askRuns (Connection.backend client transport) timer job).1 := by
  have fired : Undisturbed { watch with
      now := timer.firing watch.now
      timer := some (timer.after (timer.firing watch.now)) } :=
    ⟨undisturbed.waiting, undisturbed.unnoted, undisturbed.coming⟩
  exact fired.call .latestRuns (client.latestRuns job)

/-- The watch polls undisturbed, or it has stopped. -/
inductive Unabandoned (job : String) : Stage (Connection State) → Prop
  | going {watch : Watch (Connection State)} {session : Session} {timer : Timer} :
      Follows watch job session timer → Undisturbed watch → Unabandoned job (.running watch)
  | stopping {watch : Watch (Connection State)} {reason : StopReason} :
      watch.stopped = some reason → Unabandoned job (.running watch)
  | finished {ending : Ending (Connection State)} :
      ending.outcome ≠ .ok none → Unabandoned job (.finished ending)

theorem Unabandoned.turn (unabandoned : Unabandoned job (.running watch))
    (tickFirst : Precedence (Connection State)) :
    Unabandoned job (watch.turn (Connection.backend client transport) tickFirst) := by
  cases unabandoned with
  | @going _ session timer follows undisturbed =>
      rcases turn_of_follows (Connection.backend client transport) follows tickFirst with
        ⟨next, turned, round⟩ | ⟨command, arrived, next, turned⟩
      · rw [turned]
        cases round with
        | reported reported =>
            have asked : Undisturbed
                (watch.askRuns (Connection.backend client transport) timer job).1 :=
              undisturbed.asked timer
            exact .going (follows.reported _) ⟨asked.waiting, asked.unnoted, asked.coming⟩
        | ended ends => exact .stopping rfl
      · rw [turned, undisturbed.cancels next,
          obey_cancel (follows.arrived (sameCourse_of_nextCommand next))]
        exact .stopping rfl
  | stopping stopped =>
      rw [turn_of_stopped stopped]
      exact .finished nofun

theorem Undisturbed.opened (undisturbed : Undisturbed watch) (going : watch.stopped = none)
    (reason : StartReason) : Unabandoned job (.running (watch.opened job reason)) := by
  rcases opened_follows watch going job reason with ⟨session, timer, follows⟩
  exact .going follows ⟨undisturbed.waiting, undisturbed.unnoted, undisturbed.coming⟩

theorem Undisturbed.kickOff (undisturbed : Undisturbed watch) (idle : watch.poller.phase = .idle)
    (going : watch.stopped = none) (kickoff : Kickoff) :
    (∃ runs, kickoff = .observe runs ∧ runs.head?.all (·.isTerminal) = true) ∨
      Unabandoned job (watch.kickOff (Connection.backend client transport) job kickoff) := by
  rcases kickOff_of_idle (Connection.backend client transport) idle job kickoff with
    ⟨runs, observed, terminal, -⟩ | ⟨newest, others, -, -, kicked⟩ | ⟨causes, -, -, kicked⟩ |
    ⟨run, -, -, kicked⟩
  · exact .inl ⟨runs, observed, terminal⟩
  · rw [kicked]
    exact .inr (undisturbed.opened going .observed)
  · rw [kicked]
    exact .inr (.finished nofun)
  · have asked : Undisturbed (watch.call .rerun job
        (Connection.reply client transport (client.rerun job))).1 := undisturbed.call _ _
    have told : Undisturbed ((watch.call .rerun job
        (Connection.reply client transport (client.rerun job))).1.emit
          (.notice (.rerunRequested job run.uid))) :=
      ⟨asked.waiting, asked.unnoted, asked.coming⟩
    rw [kicked]
    exact .inr (told.opened going .rerun)

theorem Undisturbed.followed (undisturbed : Undisturbed watch) (idle : watch.poller.phase = .idle)
    (going : watch.stopped = none) (client : Client) (transport : Transport State)
    (tickFirst : Precedence (Connection State)) (count : Nat) (job : String) (kickoff : Kickoff) :
    (∃ runs, kickoff = .observe runs ∧ runs.head?.all (·.isTerminal) = true) ∨
      Unabandoned job
        (watch.followed (Connection.backend client transport) tickFirst count job kickoff) := by
  rcases undisturbed.kickOff idle going kickoff with nothing | unabandoned
  · exact .inl nothing
  · exact .inr (turns_induction (fun _ unabandoned => unabandoned.turn tickFirst) unabandoned count)

end Watch

namespace Surroundings

variable {surroundings : Surroundings State} {client : Client} {timing : PollTiming}
  {job : String} {kickoff : Watch.Kickoff} {server : State}
  {ending : Watch.Ending (Connection State)}

theorem finished_of_watch
    (watched : surroundings.watch client timing job kickoff server = .ok ending) :
    (Watch.new timing (⟨server, false⟩ : Connection State) surroundings.coming).followed
      (Connection.backend client surroundings.transport) surroundings.tickFirst
      surroundings.turns job kickoff = .finished ending := by
  rw [watch] at watched
  generalize Watch.followed _ _ _ _ _ _ = stage at watched ⊢
  cases stage with
  | running watch => cases watched
  | finished ending =>
      cases watched
      rfl

/-- Only a watch that finds nothing to follow ends without having stopped. -/
theorem idle_of_watch
    (watched : surroundings.watch client timing job kickoff server = .ok ending)
    (unstopped : ending.outcome = .ok none) :
    ∃ runs, kickoff = .observe runs ∧ runs.head?.all (·.isTerminal) = true := by
  have undisturbed : (Watch.new timing (⟨server, false⟩ : Connection State)
      surroundings.coming).Undisturbed :=
    ⟨nofun, fun _ => rfl, fun _ isFirst => surroundings.head?_coming isFirst⟩
  have followed := undisturbed.followed rfl rfl client surroundings.transport
    surroundings.tickFirst surroundings.turns job kickoff
  rw [finished_of_watch watched] at followed
  rcases followed with idle | unabandoned
  · exact idle
  · cases unabandoned with
    | finished notLeft => exact absurd unstopped notLeft

end Surroundings

end ExportWatch

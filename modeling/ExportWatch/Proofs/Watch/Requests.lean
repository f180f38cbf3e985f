import ExportWatch.Watch.Follow
import Mathlib.Data.List.Induction

/-! The requests behind the record of a watch. A record has no replies in it, but a backend that is
asked the same again gives the same replies, so the record tells when each request was answered
and which commands were sent meanwhile. -/

namespace ExportWatch

variable {State : Type}

/-- A request with the commands that were sent until it was answered. -/
structure TimedCall where
  call : Call
  start : Moment
  finish : Moment
  commands : List Command
  deriving DecidableEq, Repr

def Occurrence.isCall : Occurrence → Bool
  | .call _ _ => true
  | _ => false

namespace Backend

/-- How long the reply to a call takes, the commands that come with it, and the state after it. -/
def serve (backend : Backend State) (job : String) (state : State) :
    Call → Span × List Command × State
  | .latestRuns =>
      let (reply, next) := backend.latestRuns job state
      (reply.delay, reply.commands, next)
  | .completedRuns =>
      let (reply, next) := backend.completedRuns job state
      (reply.delay, reply.commands, next)
  | .rerun =>
      let (reply, next) := backend.rerun job state
      (reply.delay, reply.commands, next)

def serveEntry (backend : Backend State) (served : List TimedCall × State) (entry : Entry) :
    List TimedCall × State :=
  match entry.occurrence with
  | .call call job =>
      let (delay, commands, state) := backend.serve job served.2 call
      (served.1 ++ [⟨call, entry.moment, entry.moment + delay.nanoseconds, commands⟩], state)
  | _ => served

/-- The requests, and the state that they leave. -/
def served (backend : Backend State) (state : State) (record : List Entry) :
    List TimedCall × State :=
  record.foldl backend.serveEntry ([], state)

def requests (backend : Backend State) (state : State) (record : List Entry) : List TimedCall :=
  (backend.served state record).1

/-- The commands that were sent with replies, each with the moment from which it is there. -/
def sent (backend : Backend State) (state : State) (record : List Entry) :
    List (Moment × Command) :=
  (backend.requests state record).flatMap fun request => request.commands.map (request.finish, ·)

variable {backend : Backend State} {state : State}

theorem served_concat (record : List Entry) (entry : Entry) :
    backend.served state (record ++ [entry]) =
      backend.serveEntry (backend.served state record) entry := by
  rw [served, List.foldl_append]
  rfl

theorem requests_continue (before after : List Entry) :
    backend.requests state before <+: backend.requests state (before ++ after) := by
  induction after using List.reverseRecOn with
  | nil => exact (List.append_nil before).symm ▸ List.prefix_refl _
  | append_singleton after last induction =>
      rw [← List.append_assoc, requests, requests, served_concat]
      refine induction.trans ?_
      rw [serveEntry]
      split
      · exact List.prefix_append _ _
      · exact List.prefix_refl _

theorem requests_call (before after : List Entry) (moment : Moment) (call : Call) (job : String) :
    ∃ finish commands others,
      backend.requests state (before ++ ⟨moment, .call call job⟩ :: after) =
        backend.requests state before ++ ⟨call, moment, finish, commands⟩ :: others := by
  have first : backend.requests state (before ++ [⟨moment, .call call job⟩]) =
      backend.requests state before ++ [_] :=
    congrArg Prod.fst (served_concat before ⟨moment, .call call job⟩)
  have continued : backend.requests state (before ++ [⟨moment, .call call job⟩]) <+:
      backend.requests state (before ++ [⟨moment, .call call job⟩] ++ after) :=
    requests_continue _ after
  rcases continued with ⟨others, whole⟩
  rw [first, List.append_assoc, List.append_assoc] at whole
  exact ⟨_, _, others, whole.symm⟩

/-- The requests are the calls on the record. -/
theorem map_requests (backend : Backend State) (state : State) (watch : Watch State) :
    (backend.requests state watch.record).map (fun request => (request.start, request.call)) =
      watch.calls.map fun call => (call.1, call.2.1) := by
  rw [Watch.calls]
  induction watch.record using List.reverseRecOn with
  | nil => rfl
  | append_singleton record last induction =>
      rw [requests, served_concat, List.filterMap_append, List.map_append, ← induction, serveEntry]
      rcases last with ⟨moment, occurrence⟩
      cases occurrence with
      | call call job => exact List.map_append
      | event event => exact (List.append_nil _).symm
      | command command => exact (List.append_nil _).symm

end Backend

namespace Watch

theorem served_note (backend : Backend State) (state : State) (watch : Watch State)
    {occurrence : Occurrence} (notCall : occurrence.isCall = false) :
    backend.served state (watch.note occurrence).record = backend.served state watch.record := by
  rw [Watch.note, Backend.served_concat]
  cases occurrence with
  | call call job => cases notCall
  | event event => rfl
  | command command => rfl

theorem served_emit (backend : Backend State) (state : State) (watch : Watch State)
    (event : WatchEvent) :
    backend.served state (watch.emit event).record = backend.served state watch.record :=
  served_note backend state watch rfl

/-- A request is made at once, and the watch waits until it is answered. -/
theorem served_call {backend : Backend State} {state : State} {watch : Watch State} {α : Type}
    {call : Call} {job : String} {request : State → Reply α × State}
    (sameState : (backend.served state watch.record).2 = watch.state)
    (serves : backend.serve job watch.state call = ((request watch.state).1.delay,
      (request watch.state).1.commands, (request watch.state).2)) :
    backend.served state (watch.call call job request).1.record =
      (backend.requests state watch.record ++
        [⟨call, watch.now, (watch.call call job request).1.now,
          (request watch.state).1.commands⟩],
        (watch.call call job request).1.state) := by
  change backend.served state (watch.record ++ [⟨watch.now, .call call job⟩]) = _
  rw [Backend.served_concat, Backend.serveEntry]
  simp only [sameState, serves]
  rfl

end Watch

end ExportWatch

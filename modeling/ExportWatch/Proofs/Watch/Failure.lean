import ExportWatch.Proofs.Watch.Delivery

/-! A fetch that fails, and the same history without its answer. The failure itself is only
reported, but its number stays on record, and answers with smaller numbers come too late from then
on. The other operations keep their effects exactly if no such answer is applied later. -/

namespace ExportWatch.Poller

variable {poller left right : Poller} {session : Session} {operations : List Operation}
  {number other : Nat} {message : String}

/-- The effects of one operation after the other. -/
def outputs (poller : Poller) (operations : List Operation) : List (List Effect) :=
  (poller.history operations).map Prod.snd

theorem outputs_cons (poller : Poller) (head : Operation) (tail : List Operation) :
    poller.outputs (head :: tail) = (poller.step head).2 :: (poller.step head).1.outputs tail :=
  rfl

theorem outputs_append (poller : Poller) (first second : List Operation) :
    poller.outputs (first ++ second) =
      poller.outputs first ++ (poller.after first).outputs second := by
  rw [outputs, history_append, List.map_append]
  rfl

theorem length_outputs (poller : Poller) (operations : List Operation) :
    (poller.outputs operations).length = operations.length := by
  induction operations generalizing poller with
  | nil => rfl
  | cons head tail induction => rw [outputs_cons, List.length_cons, induction, List.length_cons]

/-- The effects tell which answers are applied. -/
theorem applied_eq_of_outputs (same : left.outputs operations = right.outputs operations) :
    left.applied operations = right.applied operations := by
  induction operations generalizing left right with
  | nil => rfl
  | cons head tail induction =>
      rw [outputs_cons, outputs_cons, List.cons.injEq] at same
      have later := induction same.2
      cases head with
      | answer number outcome => simp only [applied, same.1, later]
      | _ => exact later

theorem mem_applied_of_applies {outcome : Except String (List Run)} {tail : List Operation}
    (applies : (poller.step (.answer number outcome)).2 ≠ []) :
    number ∈ poller.applied (.answer number outcome :: tail) := by
  simp [applied, applies]

theorem mem_applied_of_tail {head : Operation} {tail : List Operation}
    (member : number ∈ (poller.step head).1.applied tail) :
    number ∈ poller.applied (head :: tail) := by
  cases head with
  | answer first outcome =>
      simp only [applied]
      split
      · exact member
      · exact List.mem_cons_of_mem _ member
  | _ => exact member

/-! Two pollers side by side. One of them has the number on record, the other would still apply an
answer with it. -/

def recording (poller : Poller) (session : Session) (number : Nat) : Poller :=
  { poller with phase := .polling { session with lastApplied := some number } }

inductive Records (number : Nat) : Poller → Poller → Prop
  | nothing (poller : Poller) : Records number poller poller
  | failure {poller : Poller} {session : Session} :
      poller.phase = .polling session → session.isStale number = false →
      Records number (poller.recording session number) poller

namespace Records

/-- The effects are the same, and what is left differs in the record at most. -/
def Alike (number : Nat) (left right : Poller × List Effect) : Prop :=
  left.2 = right.2 ∧ Records number left.1 right.1

theorem cancel (polling : poller.phase = .polling session) (number : Nat) :
    Alike number (poller.recording session number).cancel poller.cancel := by
  simp only [Poller.cancel, recording, polling]
  exact ⟨rfl, .nothing _⟩

section Failure

variable (polling : poller.phase = .polling session) (fresh : session.isStale number = false)
include polling fresh

theorem start (job : String) (reason : StartReason) :
    Alike number ((poller.recording session number).start job reason)
      (poller.start job reason) := by
  have jobs : (poller.recording session number).isPolling job = poller.isPolling job := by
    simp [recording, isPolling, session?, polling]
  have timers : (poller.recording session number).cancelTimers = poller.cancelTimers := by
    simp [recording, cancelTimers, activeTimer, session?, polling]
  have delays : (poller.recording session number).startDelay reason = poller.startDelay reason := by
    cases reason <;> rfl
  rw [Poller.start, Poller.start, jobs, timers, delays]
  split
  · exact ⟨rfl, .failure polling fresh⟩
  · exact ⟨rfl, .nothing _⟩

theorem observe (job : String) (runs : List Run) :
    Alike number ((poller.recording session number).observe job runs)
      (poller.observe job runs) := by
  cases runs with
  | nil => exact ⟨rfl, .failure polling fresh⟩
  | cons newest others =>
      rw [Poller.observe, Poller.observe]
      split
      · exact ⟨rfl, .failure polling fresh⟩
      · exact start polling fresh job .observed

theorem tick (timer : Nat) :
    Alike number ((poller.recording session number).tick timer) (poller.tick timer) := by
  by_cases same : session.timer = timer
  · have ticked : poller.tick timer = ({ poller with lastFetch := poller.lastFetch + 1 },
        [.fetch session.job (poller.lastFetch + 1)]) := by
      simp [Poller.tick, polling, same]
    have tickedToo : (poller.recording session number).tick timer =
        (recording { poller with lastFetch := poller.lastFetch + 1 } session number,
          [.fetch session.job (poller.lastFetch + 1)]) := by
      simp [Poller.tick, recording, same]
    rw [ticked, tickedToo]
    exact ⟨rfl, .failure polling fresh⟩
  · have ignored : poller.tick timer = (poller, []) := by
      simp [Poller.tick, polling, same]
    have ignoredToo : (poller.recording session number).tick timer =
        (poller.recording session number, []) := by
      simp [Poller.tick, recording, same]
    rw [ignored, ignoredToo]
    exact ⟨rfl, .failure polling fresh⟩

/-- An answer with a larger number puts itself on record in either case. -/
theorem answer (outcome : Except String (List Run))
    (later : (poller.step (.answer other outcome)).2 ≠ [] → number < other) :
    Alike number ((poller.recording session number).step (.answer other outcome))
      (poller.step (.answer other outcome)) := by
  have recorded : (poller.recording session number).phase =
      .polling (session.receive number) := by
    rw [Session.receive_of_fresh fresh]
    rfl
  cases stale : session.isStale other with
  | true =>
      have staleToo : (session.receive number).isStale other = true := by
        simp [Session.isStale_receive, stale]
      rw [step_of_stale recorded staleToo, step_of_stale polling stale]
      exact ⟨rfl, .failure polling fresh⟩
  | false =>
      have less := later (applies_iff.mpr ⟨session, polling, stale⟩)
      have freshToo : (session.receive number).isStale other = false := by
        simp [Session.isStale_receive, stale, less]
      rcases reports_or_ends outcome with ⟨report, reports⟩ | ⟨reason, ends⟩
      · rw [step_of_reports recorded reports, step_of_reports polling reports, freshToo, stale,
          Session.receive_of_lt less]
        exact ⟨rfl, .nothing _⟩
      · rw [step_of_ends recorded freshToo ends, step_of_ends polling stale ends]
        rw [Session.receive_timer, Session.receive_job]
        exact ⟨rfl, .nothing _⟩

end Failure

theorem step (records : Records number left right) (operation : Operation)
    (later : ∀ other outcome, operation = .answer other outcome →
      (right.step operation).2 ≠ [] → number < other) :
    Alike number (left.step operation) (right.step operation) := by
  cases records with
  | nothing => exact ⟨rfl, .nothing _⟩
  | failure polling fresh =>
      cases operation with
      | start job reason => exact start polling fresh job reason
      | observe job runs => exact observe polling fresh job runs
      | tick timer => exact tick polling fresh timer
      | answer other outcome => exact answer polling fresh outcome (later other outcome rfl)
      | cancel => exact cancel polling number

theorem outputs (records : Records number left right)
    (later : ∀ other ∈ right.applied operations, number < other) :
    left.outputs operations = right.outputs operations := by
  induction operations generalizing left right with
  | nil => rfl
  | cons head tail induction =>
      have alike : Alike number (left.step head) (right.step head) := by
        apply records.step
        rintro other outcome rfl applies
        exact later other (mem_applied_of_applies applies)
      rw [outputs_cons, outputs_cons, alike.1,
        induction alike.2 fun other member => later other (mem_applied_of_tail member)]

end Records

/-! The failure, and what comes after it. -/

theorem step_of_failure (poller : Poller) (number : Nat) (message : String) :
    poller.step (.answer number (.error message)) = (poller, []) ∨
      ∃ session, poller.phase = .polling session ∧ session.isStale number = false ∧
        poller.step (.answer number (.error message)) =
          (poller.recording session number, [.fetchFailed message]) := by
  cases current : poller.session? with
  | none => exact .inl (answer_of_resting current _ _)
  | some session =>
      have polling := session?_eq_some_iff.mp current
      cases stale : session.isStale number with
      | true => exact .inl (step_of_stale polling stale _)
      | false =>
          refine .inr ⟨session, polling, stale, ?_⟩
          rw [step_of_reports polling (.failure message), stale, Session.receive_of_fresh stale]
          rfl

theorem eraseIdx_outputs (poller : Poller) (past future : List Operation) (operation : Operation) :
    (poller.outputs (past ++ operation :: future)).eraseIdx past.length =
      poller.outputs past ++ ((poller.after past).step operation).1.outputs future := by
  rw [outputs_append, outputs_cons, List.eraseIdx_append_of_length_le (by rw [length_outputs]),
    length_outputs, Nat.sub_self, List.eraseIdx_cons_zero]

/-- Over any history in which only issued fetches are answered: a failure has no effects and changes
nothing, or it is reported and its number is put on record. Without it all other operations have
the same effects exactly if it was not applied, or each answer applied later has a larger number. -/
theorem failure_leaves_no_trace_iff (timing : PollTiming) (past future : List Operation)
    (number : Nat) (message : String)
    (onlyIssued : (new timing).OnlyIssued (past ++ .answer number (.error message) :: future)) :
    let poller := (new timing).after past
    let failed := poller.step (.answer number (.error message))
    (failed = (poller, []) ∨ ∃ session, poller.phase = .polling session ∧
        session.isStale number = false ∧
        failed = (poller.recording session number, [.fetchFailed message])) ∧
      (((new timing).outputs (past ++ .answer number (.error message) :: future)).eraseIdx
          past.length = (new timing).outputs (past ++ future) ↔
        failed.2 = [] ∨ ∀ other ∈ poller.applied future, number < other) := by
  intro poller failed
  have outcome := step_of_failure poller number message
  refine ⟨outcome, ?_⟩
  rw [eraseIdx_outputs, outputs_append, List.append_right_inj]
  constructor
  · intro same
    by_cases applies : failed.2 = []
    · exact .inl applies
    · right
      intro other member
      have issued := onlyIssued.answersIssued past number _ future rfl
      rw [← applied_eq_of_outputs same] at member
      exact (overtaken_of_applied issued applies).lt_of_mem_applied member
  · intro condition
    rcases outcome with ignored | ⟨session, polling, fresh, recorded⟩
    · rw [ignored]
    · rcases condition with nothing | later
      · rw [show failed = _ from recorded] at nothing
        cases nothing
      · rw [recorded]
        exact (Records.failure polling fresh).outputs later

/-- Two fetches are asked for, and then each is answered. -/
private theorem onlyIssued_of_two {first second : Nat} (firstIssued : first = 1 ∨ first = 2)
    (secondIssued : second = 1 ∨ second = 2) (outcome other : Except String (List Run)) :
    (new ⟨.ofSeconds 3, .ofSeconds 2⟩).OnlyIssued
      ([.start "a" .observed, .tick 1, .tick 1] ++
        [.answer first outcome, .answer second other]) := by
  intro past number given future split
  rcases past with _ | ⟨_, _ | ⟨_, _ | ⟨_, past⟩⟩⟩ <;> simp at split
  rcases split with ⟨rfl, rfl, rfl, split⟩
  have answered : Operation.answer number given ∈
      [.answer first outcome, .answer second other] := by simp [split]
  have small : number = 1 ∨ number = 2 := by
    rcases List.mem_pair.mp answered with same | same <;> cases same <;> assumption
  have asked : .fetch "a" number ∈
      (new ⟨.ofSeconds 3, .ofSeconds 2⟩).effects [.start "a" .observed, .tick 1, .tick 1] := by
    rcases small with rfl | rfl <;> decide +kernel
  change ∃ job, .fetch job number ∈ (new ⟨.ofSeconds 3, .ofSeconds 2⟩).effects
    ([.start "a" .observed, .tick 1, .tick 1] ++ past)
  rw [effects_append]
  exact ⟨"a", List.mem_append_left _ asked⟩

/-- The first of two fetches fails, and its answer comes first. The second is answered as if it
had been the only one. -/
theorem failure_leaves_no_trace_iff_of_two :
    let timing : PollTiming := ⟨.ofSeconds 3, .ofSeconds 2⟩
    let run : Run := ⟨"run-1", .running, none, none, none, []⟩
    let past : List Operation := [.start "a" .observed, .tick 1, .tick 1]
    let failure : Operation := .answer 1 (.error "timeout")
    let future : List Operation := [.answer 2 (.ok [run])]
    (new timing).OnlyIssued (past ++ failure :: future) ∧
      (((new timing).after past).step failure).2 = [.fetchFailed "timeout"] ∧
      ((new timing).outputs (past ++ failure :: future)).eraseIdx past.length =
        (new timing).outputs (past ++ future) := by
  intro timing run past failure future
  have onlyIssued : (new timing).OnlyIssued (past ++ failure :: future) :=
    onlyIssued_of_two (.inl rfl) (.inr rfl) _ _
  have condition := (failure_leaves_no_trace_iff timing past future 1 "timeout" onlyIssued).2
  exact ⟨onlyIssued, by decide +kernel, condition.mpr (.inr (by decide +kernel))⟩

/-- The second of two fetches fails, and its answer comes first. The answer to the first fetch,
which shows a run in progress, has no effect then. -/
theorem failure_discards_earlier_answer :
    let timing : PollTiming := ⟨.ofSeconds 3, .ofSeconds 2⟩
    let run : Run := ⟨"run-1", .running, none, none, none, []⟩
    let past : List Operation := [.start "a" .observed, .tick 1, .tick 1]
    let failure : Operation := .answer 2 (.error "timeout")
    let future : List Operation := [.answer 1 (.ok [run])]
    (new timing).OnlyIssued (past ++ failure :: future) ∧
      ((new timing).outputs (past ++ failure :: future)).eraseIdx past.length =
        (new timing).outputs past ++ [[]] ∧
      (new timing).outputs (past ++ future) = (new timing).outputs past ++ [[.update run]] := by
  intro timing run past failure future
  exact ⟨onlyIssued_of_two (.inr rfl) (.inl rfl) _ _, by decide +kernel, by decide +kernel⟩

end ExportWatch.Poller

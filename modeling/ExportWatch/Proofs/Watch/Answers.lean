import ExportWatch.Proofs.Watch.Course

/-! Answers to fetches that come late, twice or in another order. An answer is
applied only in the session that asked for it, the applied answers are in the order
of their fetches, and the answer to the newest fetch is not lost. -/

namespace ExportWatch.Poller

variable {poller : Poller} {operation : Operation} {operations : List Operation}

/-! An answer is applied when it has effects. -/

theorem applies_iff {number : Nat} {outcome : Except String (List Run)} :
    (poller.step (.answer number outcome)).2 ≠ [] ↔
      ∃ session, poller.phase = .polling session ∧ session.isStale number = false := by
  have move := step_moves poller (.answer number outcome)
  generalize poller.step (.answer number outcome) = stepped at move
  rcases stepped with ⟨next, effects⟩
  cases move with
  | ignored ignored =>
      refine iff_of_false (fun applies => applies rfl) ?_
      rintro ⟨session, polling, fresh⟩
      have known := session?_eq_some_iff.mpr polling
      dsimp only at known ignored
      simp [ignores, known, fresh] at ignored
  | opened opens _ => cases opens
  | reported polling fresh _ => simp [polling, fresh]
  | finished polling fresh _ => simp [polling, fresh]

theorem unchanged_of_not_applied {number : Nat} {outcome : Except String (List Run)}
    (discarded : (poller.step (.answer number outcome)).2 = []) :
    (poller.step (.answer number outcome)).1 = poller := by
  have move := step_moves poller (.answer number outcome)
  generalize poller.step (.answer number outcome) = stepped at move discarded
  rcases stepped with ⟨next, effects⟩
  cases move with
  | ignored _ => rfl
  | opened opens _ => cases opens
  | reported _ _ _ => cases discarded
  | finished _ _ _ => cases discarded

/-- The jobs that an answer stops. -/
theorem job_of_stopped {number : Nat} {outcome : Except String (List Run)} {session : Session}
    (polling : poller.phase = .polling session) :
    ∀ effect ∈ (poller.step (.answer number outcome)).2,
      (∀ job reason, effect = .stopped job reason → job = session.job) ∧
        (∀ job, effect = .refreshCompleted job → job = session.job) := by
  have move := step_moves poller (.answer number outcome)
  generalize poller.step (.answer number outcome) = stepped at move
  rcases stepped with ⟨next, effects⟩
  cases move with
  | ignored _ => simp
  | opened opens _ => cases opens
  | reported _ _ reports => cases reports <;> simp
  | finished same _ _ =>
      rw [polling] at same
      cases same
      simp +contextual [eq_comm]

/-! An answer that has been applied, and each one before it, comes too late from
then on: the session knows the number, and later sessions begin behind it. -/

def Overtaken (poller : Poller) (number : Nat) : Prop :=
  number ≤ poller.lastFetch ∧
    ∀ session, poller.phase = .polling session → session.isStale number = true

theorem Overtaken.step {number : Nat} (overtaken : poller.Overtaken number)
    (operation : Operation) : (poller.step operation).1.Overtaken number := by
  refine ⟨overtaken.1.trans (lastFetch_le_step poller operation), ?_⟩
  intro session polling
  by_contra fresh
  have parts := Session.isStale_eq_false_iff.mp (by simpa using fresh)
  rcases session_of_step polling with
    begins | ⟨before, beforePolling, continues, sameApplied | applied⟩
  · have le := overtaken.1
    have firstFetch := begins.firstFetch
    omega
  · have stale := overtaken.2 before beforePolling
    rw [Session.isStale_eq_false_iff.mpr ⟨continues.firstFetch ▸ parts.1,
      sameApplied ▸ parts.2⟩] at stale
    cases stale
  · rcases applied with ⟨larger, -, -, largerFresh, lastApplied⟩
    have less : larger < number := parts.2 larger lastApplied
    have stale := Session.isStale_of_le less.le (overtaken.2 before beforePolling)
    rw [largerFresh] at stale
    cases stale

theorem overtaken_of_applied {number : Nat} {outcome : Except String (List Run)}
    (issued : number ≤ poller.lastFetch)
    (applies : (poller.step (.answer number outcome)).2 ≠ []) :
    (poller.step (.answer number outcome)).1.Overtaken number := by
  refine ⟨issued.trans (lastFetch_le_step poller _), ?_⟩
  have move := step_moves poller (.answer number outcome)
  generalize poller.step (.answer number outcome) = stepped at move applies
  rcases stepped with ⟨next, effects⟩
  intro session polling
  cases move with
  | ignored _ => exact absurd rfl applies
  | opened opens _ => cases opens
  | reported _ _ _ =>
      cases polling
      simp [Session.isStale]
  | finished _ _ _ => cases polling

theorem lt_of_overtaken {number larger : Nat} {outcome : Except String (List Run)}
    (overtaken : poller.Overtaken number)
    (applies : (poller.step (.answer larger outcome)).2 ≠ []) : number < larger := by
  rcases applies_iff.mp applies with ⟨session, polling, fresh⟩
  by_contra notLess
  have stale := Session.isStale_of_le (Nat.le_of_not_lt notLess) (overtaken.2 session polling)
  rw [fresh] at stale
  cases stale

/-- The numbers of the answers that are applied, in order. -/
def applied (poller : Poller) : List Operation → List Nat
  | [] => []
  | head :: tail =>
      let (next, effects) := poller.step head
      match head with
      | .answer number _ => if effects = [] then next.applied tail else number :: next.applied tail
      | _ => next.applied tail

theorem mem_applied_cons {number : Nat} {head : Operation} {tail : List Operation}
    (member : number ∈ poller.applied (head :: tail)) :
    (∃ outcome, head = .answer number outcome ∧ (poller.step head).2 ≠ []) ∨
      number ∈ (poller.step head).1.applied tail := by
  cases head with
  | answer first outcome =>
      by_cases effects : (poller.step (.answer first outcome)).2 = []
      · exact .inr (by simpa [applied, effects] using member)
      · simp only [applied, if_neg effects, List.mem_cons] at member
        rcases member with rfl | member
        · exact .inl ⟨outcome, rfl, effects⟩
        · exact .inr member
  | _ => exact .inr member

theorem Overtaken.lt_of_mem_applied {number larger : Nat} (overtaken : poller.Overtaken number)
    (member : larger ∈ poller.applied operations) : number < larger := by
  induction operations generalizing poller with
  | nil => cases member
  | cons head tail induction =>
      rcases mem_applied_cons member with ⟨outcome, rfl, applies⟩ | member
      · exact lt_of_overtaken overtaken applies
      · exact induction (overtaken.step head) member

/-- Each answer has a number that has been given out by then. -/
def AnswersIssued (poller : Poller) (operations : List Operation) : Prop :=
  ∀ past number outcome future, operations = past ++ .answer number outcome :: future →
    number ≤ (poller.after past).lastFetch

theorem AnswersIssued.tail {head : Operation} {tail : List Operation}
    (issued : poller.AnswersIssued (head :: tail)) :
    (poller.step head).1.AnswersIssued tail := by
  rintro past number outcome future rfl
  exact issued (head :: past) number outcome future rfl

theorem applied_increasing (issued : poller.AnswersIssued operations) :
    (poller.applied operations).Pairwise (· < ·) := by
  induction operations generalizing poller with
  | nil => exact .nil
  | cons head tail induction =>
      have later := induction issued.tail
      cases head with
      | answer number outcome =>
          by_cases effects : (poller.step (.answer number outcome)).2 = []
          · simpa [applied, effects] using later
          · have overtaken := overtaken_of_applied (issued [] number outcome tail rfl) effects
            simp only [applied, if_neg effects]
            exact .cons (fun larger member => overtaken.lt_of_mem_applied member) later
      | _ => exact later

/-! The newest fetch, until it is answered. Its number stays the last one that was
given out, and its session, while it is there, still waits for it. -/

/-- The session is known to the poller by numbers that the poller has given out. -/
def KnowsSession (poller : Poller) : Prop :=
  ∀ session, poller.phase = .polling session →
    session.timer ≤ poller.lastTimer ∧ session.firstFetch ≤ poller.lastFetch + 1 ∧
      ∀ applied ∈ session.lastApplied, applied ≤ poller.lastFetch

theorem knowsSession_new (timing : PollTiming) : (new timing).KnowsSession := by
  intro session polling
  cases polling

theorem KnowsSession.step (knows : poller.KnowsSession)
    (issued : ∀ number outcome, operation = .answer number outcome →
      number ≤ poller.lastFetch) : (poller.step operation).1.KnowsSession := by
  intro session polling
  have fetches := lastFetch_le_step poller operation
  have numbers := numbers_of_session_step
    (fun before beforePolling => ⟨(knows before beforePolling).1, (knows before beforePolling).2.1⟩)
    polling
  refine ⟨numbers.1, numbers.2, ?_⟩
  rcases session_of_step polling with
    begins | ⟨before, beforePolling, continues, sameApplied | applied⟩
  · simp [begins.lastApplied]
  · intro number member
    exact ((knows before beforePolling).2.2 number (sameApplied ▸ member)).trans fetches
  · rcases applied with ⟨answered, outcome, isAnswer, -, lastApplied⟩
    intro number member
    rw [lastApplied, Option.mem_some_iff] at member
    exact member ▸ (issued answered outcome isAnswer).trans fetches

/-- The session on the timer, while it is there, waits for the fetch with the number. -/
structure Awaits (poller : Poller) (number timer : Nat) : Prop where
  newest : poller.lastFetch = number
  timer_le : timer ≤ poller.lastTimer
  fresh : ∀ session, poller.phase = .polling session → session.timer = timer →
    session.isStale number = false

theorem awaits_of_fetch (knows : poller.KnowsSession) {job : String} {number : Nat}
    (fetched : .fetch job number ∈ (poller.step operation).2) {timer : Nat}
    (active : poller.activeTimer = some timer) :
    (poller.step operation).1.Awaits number timer := by
  rcases fetch_of_step fetched with ⟨⟨session, polling, -⟩, rfl, next⟩
  rcases knows session polling with ⟨timer_le, firstFetch, applied⟩
  rw [next]
  have sameTimer : session.timer = timer := by
    simpa [activeTimer, session?, polling] using active
  refine ⟨rfl, sameTimer ▸ timer_le, ?_⟩
  intro same samePolling _
  rw [polling] at samePolling
  cases samePolling
  exact Session.isStale_eq_false_iff.mpr
    ⟨firstFetch, fun answered member => Nat.lt_succ_of_le (applied answered member)⟩

theorem Awaits.step {number timer : Nat} (awaits : poller.Awaits number timer)
    (noFetch : ∀ job other, .fetch job other ∉ (poller.step operation).2)
    (notAnswered : ∀ outcome, operation ≠ .answer number outcome)
    (issued : ∀ other outcome, operation = .answer other outcome →
      other ≤ poller.lastFetch) : (poller.step operation).1.Awaits number timer := by
  refine ⟨(lastFetch_of_step noFetch).trans awaits.newest,
    awaits.timer_le.trans (lastTimer_le_step poller operation), ?_⟩
  rintro session polling rfl
  rcases session_of_step polling with
    begins | ⟨before, beforePolling, continues, sameApplied | applied⟩
  · have timer_le := awaits.timer_le
    have timer := begins.timer
    omega
  · have fresh := awaits.fresh before beforePolling continues.timer.symm
    simpa [Session.isStale, continues.firstFetch, sameApplied] using fresh
  · rcases applied with ⟨answered, outcome, rfl, -, lastApplied⟩
    have fresh := awaits.fresh before beforePolling continues.timer.symm
    have firstFetch := (Session.isStale_eq_false_iff.mp fresh).1
    have answered_le : answered ≤ number := awaits.newest ▸ issued answered outcome rfl
    have different : answered ≠ number := fun same => notAnswered outcome (same ▸ rfl)
    refine Session.isStale_eq_false_iff.mpr ⟨continues.firstFetch ▸ firstFetch, ?_⟩
    intro last isLast
    rw [lastApplied, Option.mem_some_iff] at isLast
    exact isLast ▸ Nat.lt_of_le_of_ne answered_le different

/-! Whole histories. -/

theorem AnswersIssued.left {first second : List Operation}
    (issued : poller.AnswersIssued (first ++ second)) : poller.AnswersIssued first := by
  rintro past number outcome future rfl
  exact issued past number outcome (future ++ second) (by simp)

theorem AnswersIssued.right {first second : List Operation}
    (issued : poller.AnswersIssued (first ++ second)) :
    (poller.after first).AnswersIssued second := by
  rintro past number outcome future rfl
  rw [← after_append]
  exact issued (first ++ past) number outcome future (by simp)

theorem KnowsSession.after (knows : poller.KnowsSession)
    (issued : poller.AnswersIssued operations) : (poller.after operations).KnowsSession := by
  induction operations generalizing poller with
  | nil => exact knows
  | cons head tail induction =>
      apply induction (knows.step _) issued.tail
      rintro number outcome rfl
      exact issued [] number outcome tail rfl

theorem Awaits.after {number timer : Nat} (awaits : poller.Awaits number timer)
    (noFetch : ∀ job other, .fetch job other ∉ poller.effects operations)
    (notAnswered : ∀ outcome, .answer number outcome ∉ operations)
    (issued : poller.AnswersIssued operations) :
    (poller.after operations).Awaits number timer := by
  induction operations generalizing poller with
  | nil => exact awaits
  | cons head tail induction =>
      simp only [effects_cons, List.mem_append, not_or] at noFetch
      have next : (poller.step head).1.Awaits number timer := by
        refine awaits.step (fun job other => (noFetch job other).1) ?_ ?_
        · rintro outcome rfl
          exact notAnswered outcome (by simp)
        · rintro other outcome rfl
          exact issued [] other outcome tail rfl
      exact induction next (fun job other => (noFetch job other).2)
        (fun outcome member => notAnswered outcome (List.mem_cons_of_mem _ member)) issued.tail

/-- Each answer is to a fetch that has been asked for by then. -/
def OnlyIssued (poller : Poller) (operations : List Operation) : Prop :=
  ∀ past number outcome future, operations = past ++ .answer number outcome :: future →
    ∃ job, .fetch job number ∈ poller.effects past

theorem OnlyIssued.answersIssued (onlyIssued : poller.OnlyIssued operations) :
    poller.AnswersIssued operations := by
  intro past number outcome future split
  rcases onlyIssued past number outcome future split with ⟨job, fetched⟩
  exact fetch_le_lastFetch fetched

/-- In what is past, the operation between `earlier` and `later` asked for the fetch. -/
structure IssuedBy (poller : Poller) (past earlier : List Operation) (operation : Operation)
    (later : List Operation) (job : String) (number : Nat) : Prop where
  split : past = earlier ++ operation :: later
  fetched : .fetch job number ∈ ((poller.after earlier).step operation).2

def Polls (poller : Poller) (job : String) (timer : Nat) : Prop :=
  ∃ session, poller.phase = .polling session ∧ session.job = job ∧ session.timer = timer

variable {past earlier later : List Operation} {job : String} {number : Nat}

theorem exists_issuedBy (fetched : .fetch job number ∈ poller.effects past) :
    ∃ earlier operation later, poller.IssuedBy past earlier operation later job number := by
  induction past using List.reverseRecOn with
  | nil => cases fetched
  | append_singleton past last induction =>
      rw [effects_concat] at fetched
      rcases List.mem_append.mp fetched with before | now
      · rcases induction before with ⟨earlier, operation, later, rfl, found⟩
        exact ⟨earlier, operation, later ++ [last], by simp, found⟩
      · exact ⟨past, last, [], rfl, now⟩

theorem IssuedBy.after_past
    (issuedBy : poller.IssuedBy past earlier operation later job number) :
    poller.after past = (((poller.after earlier).step operation).1).after later := by
  rw [issuedBy.split, after_append]
  rfl

/-- A session that takes the number has polled the job on the same timer ever since
the fetch. -/
theorem IssuedBy.polls_since
    (issuedBy : poller.IssuedBy past earlier operation later job number) {session : Session}
    (polling : (poller.after past).phase = .polling session)
    (begun : session.firstFetch ≤ number) :
    session.job = job ∧ ∀ between, between <+: later →
      Polls (poller.after (earlier ++ operation :: between)) job session.timer := by
  rcases fetch_of_step issuedBy.fetched with ⟨⟨asking, askingPolling, rfl⟩, -, asked⟩
  rw [issuedBy.after_past] at polling
  have newest : ((poller.after earlier).step operation).1.lastFetch = number := by rw [asked]
  have sameJob : session.job = asking.job := by
    rcases polling_since polling (newest ▸ begun) with ⟨first, firstPolling, continues⟩
    rw [asked, askingPolling] at firstPolling
    cases firstPolling
    exact continues.job
  refine ⟨sameJob, ?_⟩
  rintro between ⟨rest, rfl⟩
  rw [after_append] at polling
  have grows := lastFetch_le_after ((poller.after earlier).step operation).1 between
  have begunBefore := begun.trans (newest ▸ grows)
  rcases polling_since polling begunBefore with ⟨before, beforePolling, continues⟩
  refine ⟨before, ?_, continues.job.symm.trans sameJob, continues.timer.symm⟩
  rw [after_append]
  exact beforePolling

/-- The answer to the newest fetch is applied, unless it has come before or the
session that asked for it is gone. -/
theorem IssuedBy.applies_newest {timing : PollTiming}
    (issuedBy : (new timing).IssuedBy past earlier operation later job number)
    (issued : (new timing).AnswersIssued past)
    (noFetch : ∀ other otherNumber, .fetch other otherNumber ∉
      ((new timing).after (earlier ++ [operation])).effects later)
    (notAnswered : ∀ outcome, .answer number outcome ∉ later)
    (sameTimer : ((new timing).after past).activeTimer =
      ((new timing).after earlier).activeTimer) (outcome : Except String (List Run)) :
    (((new timing).after past).step (.answer number outcome)).2 ≠ [] := by
  rcases fetch_of_step issuedBy.fetched with ⟨⟨asking, askingPolling, -⟩, -, -⟩
  have active : ((new timing).after earlier).activeTimer = some asking.timer :=
    activeTimer_eq_some_iff.mpr ⟨asking, askingPolling, rfl⟩
  rw [issuedBy.split] at issued
  have knows := (knowsSession_new timing).after issued.left
  rw [after_concat] at noFetch
  have awaits := (awaits_of_fetch knows issuedBy.fetched active).after noFetch notAnswered
    issued.right.tail
  rw [← issuedBy.after_past] at awaits
  rcases activeTimer_eq_some_iff.mp (sameTimer.trans active) with ⟨session, polling, timer⟩
  exact applies_iff.mpr ⟨session, polling, awaits.fresh session polling timer⟩

/-- Over any history in which only issued fetches are answered, at any later time and
any number of times: the applied numbers strictly increase, so none is applied twice;
an answer that is not applied changes nothing; one that is applied meets the session
of its own fetch, which has been polled without a break, and it stops no other job;
and the answer to the newest fetch is applied when it comes for the first time while
the session of the fetch is still there. -/
theorem answers_apply_in_order (timing : PollTiming) (operations : List Operation)
    (onlyIssued : (new timing).OnlyIssued operations) :
    ((new timing).applied operations).Nodup ∧
      ((new timing).applied operations).Pairwise (· < ·) ∧
      ∀ past number outcome future, operations = past ++ .answer number outcome :: future →
        let answered := ((new timing).after past).step (.answer number outcome)
        (answered.2 = [] → answered.1 = (new timing).after past) ∧
        (∃ earlier operation later job,
          (new timing).IssuedBy past earlier operation later job number) ∧
        ∀ earlier operation later job,
          (new timing).IssuedBy past earlier operation later job number →
          (answered.2 ≠ [] →
            (∃ timer, ∀ between, between <+: later →
              Polls ((new timing).after (earlier ++ operation :: between)) job timer) ∧
            ∀ effect ∈ answered.2,
              (∀ stoppedJob reason, effect = .stopped stoppedJob reason → stoppedJob = job) ∧
              (∀ completedJob, effect = .refreshCompleted completedJob → completedJob = job)) ∧
          ((∀ other otherNumber, .fetch other otherNumber ∉
                ((new timing).after (earlier ++ [operation])).effects later) →
            (∀ otherOutcome, .answer number otherOutcome ∉ later) →
            ((new timing).after past).activeTimer = ((new timing).after earlier).activeTimer →
            answered.2 ≠ []) := by
  have issued := onlyIssued.answersIssued
  have increasing := applied_increasing issued
  refine ⟨increasing.imp fun less => less.ne, increasing, ?_⟩
  rintro past number outcome future rfl answered
  refine ⟨unchanged_of_not_applied, ?_, ?_⟩
  · rcases onlyIssued past number outcome future rfl with ⟨job, fetched⟩
    rcases exists_issuedBy fetched with ⟨earlier, operation, later, issuedBy⟩
    exact ⟨earlier, operation, later, job, issuedBy⟩
  intro earlier operation later job issuedBy
  constructor
  · intro applies
    rcases applies_iff.mp applies with ⟨session, polling, fresh⟩
    have begun := (Session.isStale_eq_false_iff.mp fresh).1
    rcases issuedBy.polls_since polling begun with ⟨sameJob, polls⟩
    exact ⟨⟨session.timer, polls⟩, sameJob ▸ job_of_stopped polling⟩
  · intro noFetch notAnswered sameTimer
    exact issuedBy.applies_newest issued.left noFetch notAnswered sameTimer outcome

/-- The second of two fetches is answered first, then the first one, then the second
one again. -/
theorem answers_apply_in_order_late :
    let poller := new ⟨.ofSeconds 3, .ofSeconds 2⟩
    let asked : List Operation := [.start "a" .observed, .tick 1, .tick 1]
    let operations : List Operation :=
      asked ++ [.answer 2 (.error "refused"), .answer 1 (.ok []), .answer 2 (.ok [])]
    poller.OnlyIssued operations ∧ poller.applied operations = [2] ∧
      (poller.applied operations).Pairwise (· < ·) ∧
      ((poller.after asked).step (.answer 2 (.error "refused"))).2 ≠ [] := by
  intro poller asked operations
  have onlyIssued : poller.OnlyIssued operations := by
    intro past number outcome future split
    rcases past with _ | ⟨_, _ | ⟨_, _ | ⟨_, _ | ⟨_, _ | ⟨_, _ | ⟨_, past⟩⟩⟩⟩⟩⟩ <;>
      simp [operations, asked] at split <;> rcases split with ⟨rfl, rfl, rfl, split⟩
    · rcases split with ⟨⟨rfl, -⟩, -⟩
      exact ⟨"a", by decide +kernel⟩
    · rcases split with ⟨rfl, ⟨rfl, -⟩, -⟩
      exact ⟨"a", by decide +kernel⟩
    · rcases split with ⟨rfl, rfl, ⟨rfl, -⟩, -⟩
      exact ⟨"a", by decide +kernel⟩
  have order := answers_apply_in_order ⟨.ofSeconds 3, .ofSeconds 2⟩ operations onlyIssued
  refine ⟨onlyIssued, by decide +kernel, order.2.1, ?_⟩
  have newest := (order.2.2 asked 2 (.error "refused") _ rfl).2.2
    [.start "a" .observed, .tick 1] (.tick 1) [] "a" ⟨rfl, by decide +kernel⟩
  exact newest.2 (by simp [effects, history]) (by simp) (by decide +kernel)

end ExportWatch.Poller

import ExportWatch.Proofs.Watch.Answers
import ExportWatch.Proofs.Watch.Renewal
import Mathlib.Data.List.MinMax

/-! Answers that are awaited together and come in any order. If none of them ends the polling,
every order leads to the same poller, and the newest answer is the last that is shown. If the
newest one ends the polling, every order ends it, and ends it once. -/

namespace ExportWatch

namespace Session

variable {session : Session} {number other : Nat}

/-- The session with an answer that does not end it. -/
def receive (session : Session) (number : Nat) : Session :=
  if session.isStale number then session else { session with lastApplied := some number }

@[simp] theorem receive_job (session : Session) (number : Nat) :
    (session.receive number).job = session.job := by
  unfold receive
  split <;> rfl

@[simp] theorem receive_timer (session : Session) (number : Nat) :
    (session.receive number).timer = session.timer := by
  unfold receive
  split <;> rfl

theorem receive_of_stale (stale : session.isStale number = true) :
    session.receive number = session :=
  if_pos stale

theorem receive_of_fresh (fresh : session.isStale number = false) :
    session.receive number = { session with lastApplied := some number } := by
  rw [receive, fresh]
  rfl

/-- An answer overtakes those with smaller numbers. -/
theorem isStale_receive (session : Session) (number other : Nat) :
    (session.receive number).isStale other = (session.isStale other || decide (other ≤ number)) := by
  cases stale : session.isStale number with
  | true =>
      rw [receive_of_stale stale]
      by_cases le : other ≤ number
      · simp [isStale_of_le le stale]
      · simp [le]
  | false =>
      have applied := (isStale_eq_false_iff.mp stale).2
      rw [receive_of_fresh stale, Bool.eq_iff_iff, ← not_iff_not, Bool.not_eq_true,
        Bool.not_eq_true, Bool.or_eq_false_iff, isStale_eq_false_iff, isStale_eq_false_iff]
      simp only [Option.mem_some_iff, forall_eq', decide_eq_false_iff_not, Nat.not_le]
      constructor
      · intro parts
        exact ⟨⟨parts.1, fun last isLast => (applied last isLast).trans parts.2⟩, parts.2⟩
      · intro parts
        exact ⟨parts.1.1, parts.2⟩

theorem receive_of_le {smaller larger : Nat} (le : smaller ≤ larger) :
    (session.receive larger).receive smaller = session.receive larger := by
  apply receive_of_stale
  simp [isStale_receive, le]

theorem receive_of_lt {smaller larger : Nat} (less : smaller < larger) :
    (session.receive smaller).receive larger = session.receive larger := by
  cases late : session.isStale smaller with
  | true => rw [receive_of_stale late]
  | false =>
      cases stale : session.isStale larger with
      | true =>
          rw [isStale_of_le less.le stale] at late
          cases late
      | false =>
          have fresh : (session.receive smaller).isStale larger = false := by
            simp [isStale_receive, stale, less]
          rw [receive_of_fresh fresh, receive_of_fresh late, receive_of_fresh stale]

theorem receive_comm (session : Session) (first second : Nat) :
    (session.receive first).receive second = (session.receive second).receive first := by
  rcases Nat.lt_trichotomy first second with less | rfl | less
  · rw [receive_of_lt less, receive_of_le less.le]
  · rfl
  · rw [receive_of_le less.le, receive_of_lt less]

end Session

namespace Effect

/-- What a viewer gets to see of an answer. -/
def isShown : Effect → Bool
  | .update _ => true
  | .fetchFailed _ => true
  | _ => false

end Effect

namespace Poller

variable {poller : Poller} {session : Session} {number : Nat}
  {outcome : Except String (List Run)} {report : Effect} {reason : StopReason}

theorem Reports.isShown (reports : Reports outcome report) : report.isShown = true := by
  cases reports <;> rfl

theorem Reports.not_ends (reports : Reports outcome report) : ¬ Ends outcome reason := by
  intro ends
  cases reports with
  | failure message => cases ends
  | progress newest others running =>
      cases ends with
      | terminal _ _ terminal =>
          rw [running] at terminal
          cases terminal

theorem reports_or_ends (outcome : Except String (List Run)) :
    (∃ report, Reports outcome report) ∨ ∃ reason, Ends outcome reason := by
  cases outcome with
  | error message => exact .inl ⟨_, .failure message⟩
  | ok runs =>
      cases runs with
      | nil => exact .inr ⟨_, .empty⟩
      | cons newest others =>
          cases running : newest.isTerminal with
          | true => exact .inr ⟨_, .terminal newest others running⟩
          | false => exact .inl ⟨_, .progress newest others running⟩

/-! One answer. -/

theorem step_of_stale (polling : poller.phase = .polling session)
    (stale : session.isStale number = true) (outcome : Except String (List Run)) :
    poller.step (.answer number outcome) = (poller, []) := by
  simp [step, answer, polling, stale]

theorem step_of_reports (polling : poller.phase = .polling session)
    (reports : Reports outcome report) (number : Nat) :
    poller.step (.answer number outcome) =
      ({ poller with phase := .polling (session.receive number) },
        if session.isStale number then [] else [report]) := by
  cases stale : session.isStale number with
  | true =>
      rw [step_of_stale polling stale, Session.receive_of_stale stale, ← polling]
      rfl
  | false =>
      rw [Session.receive_of_fresh stale]
      cases reports with
      | failure message => simp [step, answer, apply, polling, stale]
      | progress newest others running => simp [step, answer, apply, polling, stale, running]

theorem step_of_ends (polling : poller.phase = .polling session)
    (fresh : session.isStale number = false) (ends : Ends outcome reason) :
    poller.step (.answer number outcome) =
      ({ poller with phase := .stopped },
        [.cancelTimer session.timer, .stopped session.job reason,
          .refreshCompleted session.job]) := by
  cases ends with
  | empty => simp [step, answer, apply, stopFor, polling, fresh]
  | terminal newest others terminal =>
      simp [step, answer, apply, stopFor, polling, fresh, terminal]

/-! Answers that come one after the other. -/

structure Delivery where
  number : Nat
  outcome : Except String (List Run)

def Delivery.operation (delivery : Delivery) : Operation :=
  .answer delivery.number delivery.outcome

def afterAll (poller : Poller) (deliveries : List Delivery) : Poller :=
  poller.after (deliveries.map (·.operation))

def effectsOfAll (poller : Poller) (deliveries : List Delivery) : List Effect :=
  poller.effects (deliveries.map (·.operation))

variable {deliveries : List Delivery} {newest : Delivery}

theorem afterAll_cons (poller : Poller) (head : Delivery) (tail : List Delivery) :
    poller.afterAll (head :: tail) =
      (poller.step (.answer head.number head.outcome)).1.afterAll tail :=
  rfl

theorem effectsOfAll_cons (poller : Poller) (head : Delivery) (tail : List Delivery) :
    poller.effectsOfAll (head :: tail) =
      (poller.step (.answer head.number head.outcome)).2 ++
        (poller.step (.answer head.number head.outcome)).1.effectsOfAll tail :=
  rfl

/-- Where nothing is polled answers have no effects. -/
theorem all_of_resting (resting : poller.session? = none) (deliveries : List Delivery) :
    poller.afterAll deliveries = poller ∧ poller.effectsOfAll deliveries = [] := by
  induction deliveries with
  | nil => exact ⟨rfl, rfl⟩
  | cons head tail induction =>
      have ignored : poller.step (.answer head.number head.outcome) = (poller, []) :=
        answer_of_resting resting _ _
      rw [afterAll_cons, effectsOfAll_cons, ignored]
      exact induction

/-- Answers that all come too late have no effects. -/
theorem effectsOfAll_of_stale (polling : poller.phase = .polling session)
    (stale : ∀ delivery ∈ deliveries, session.isStale delivery.number = true) :
    poller.effectsOfAll deliveries = [] := by
  induction deliveries with
  | nil => rfl
  | cons head tail induction =>
      rw [effectsOfAll_cons, step_of_stale polling (stale head List.mem_cons_self)]
      exact induction fun delivery member => stale delivery (List.mem_cons_of_mem _ member)

/-- The outcomes are failures and runs in progress. -/
def AllReport (deliveries : List Delivery) : Prop :=
  ∀ delivery ∈ deliveries, ∃ report, Reports delivery.outcome report

theorem AllReport.tail {head : Delivery} {tail : List Delivery}
    (allReport : AllReport (head :: tail)) : AllReport tail :=
  fun delivery member => allReport delivery (List.mem_cons_of_mem _ member)

theorem afterAll_of_reports (polling : poller.phase = .polling session)
    (allReport : AllReport deliveries) :
    poller.afterAll deliveries =
      { poller with
        phase := .polling ((deliveries.map (·.number)).foldl Session.receive session) } := by
  induction deliveries generalizing poller session with
  | nil =>
      rw [List.map_nil, List.foldl_nil, ← polling]
      rfl
  | cons head tail induction =>
      rcases allReport head List.mem_cons_self with ⟨report, reports⟩
      rw [afterAll_cons, step_of_reports polling reports, induction rfl allReport.tail]
      rfl

theorem afterAll_of_perm (polling : poller.phase = .polling session)
    (allReport : AllReport deliveries) {order : List Delivery} (perm : order.Perm deliveries) :
    poller.afterAll order = poller.afterAll deliveries := by
  have orderReports : AllReport order := fun delivery member =>
    allReport delivery (perm.mem_iff.mp member)
  rw [afterAll_of_reports polling orderReports, afterAll_of_reports polling allReport]
  have same : (order.map (·.number)).foldl Session.receive session =
      (deliveries.map (·.number)).foldl Session.receive session := by
    apply (perm.map (·.number)).foldl_eq'
    intro first _ second _ received
    exact received.receive_comm first second
  rw [same]

theorem isShown_of_reports (polling : poller.phase = .polling session)
    (allReport : AllReport deliveries) :
    ∀ effect ∈ poller.effectsOfAll deliveries, effect.isShown = true := by
  induction deliveries generalizing poller session with
  | nil => nofun
  | cons head tail induction =>
      rcases allReport head List.mem_cons_self with ⟨report, reports⟩
      rw [effectsOfAll_cons, step_of_reports polling reports]
      intro effect member
      rcases List.mem_append.mp member with first | later
      · split at first
        · cases first
        · rw [List.mem_singleton.mp first]
          exact reports.isShown
      · exact induction rfl allReport.tail effect later

/-- What a viewer sees in the end. -/
def lastShown (effects : List Effect) : Option Effect :=
  (effects.filter Effect.isShown).getLast?

/-- Every delivery is of a fetch of its own. -/
def Distinct (deliveries : List Delivery) : Prop :=
  (deliveries.map (·.number)).Nodup

theorem Distinct.perm {order : List Delivery} (distinct : Distinct deliveries)
    (perm : order.Perm deliveries) : Distinct order :=
  (perm.map _).nodup_iff.mpr distinct

/-- The answer to the latest of the fetches. -/
structure Newest (newest : Delivery) (deliveries : List Delivery) : Prop where
  member : newest ∈ deliveries
  greatest : ∀ other ∈ deliveries, other.number ≤ newest.number

theorem exists_newest (some : deliveries ≠ []) : ∃ newest, Newest newest deliveries := by
  cases found : deliveries.argmax (·.number) with
  | none => exact absurd (List.argmax_eq_none.mp found) some
  | some newest =>
      exact ⟨newest, List.argmax_mem found, fun other member =>
        List.le_of_mem_argmax member found⟩

namespace Newest

theorem perm {order : List Delivery} (isNewest : Newest newest deliveries)
    (perm : order.Perm deliveries) : Newest newest order where
  member := perm.mem_iff.mpr isNewest.member
  greatest := fun other member => isNewest.greatest other (perm.mem_iff.mp member)

/-- The newest answer comes first, or it comes later and the first one is older. -/
theorem cases {head : Delivery} {tail : List Delivery} (isNewest : Newest newest (head :: tail))
    (distinct : Distinct (head :: tail)) :
    (newest = head ∧ ∀ other ∈ tail, other.number < newest.number) ∨
      (head.number < newest.number ∧ Newest newest tail ∧ Distinct tail) := by
  have parts := List.nodup_cons.mp distinct
  have older := fun other member => isNewest.greatest other (List.mem_cons_of_mem _ member)
  rcases List.mem_cons.mp isNewest.member with rfl | later
  · left
    refine ⟨rfl, fun other member => ?_⟩
    apply Nat.lt_of_le_of_ne (older other member)
    intro same
    exact parts.1 (List.mem_map.mpr ⟨other, member, same⟩)
  · right
    refine ⟨?_, ⟨later, older⟩, parts.2⟩
    apply Nat.lt_of_le_of_ne (isNewest.greatest head List.mem_cons_self)
    intro same
    exact parts.1 (List.mem_map.mpr ⟨newest, later, same.symm⟩)

end Newest

theorem phase_withSession (poller : Poller) (session : Session) :
    ({ poller with phase := .polling session } : Poller).phase = .polling session :=
  rfl

theorem getLast?_effectsOfAll (polling : poller.phase = .polling session)
    (allReport : AllReport deliveries) (distinct : Distinct deliveries)
    (isNewest : Newest newest deliveries) (reports : Reports newest.outcome report) :
    (poller.effectsOfAll deliveries).getLast? =
      if session.isStale newest.number then none else some report := by
  induction deliveries generalizing poller session with
  | nil => cases isNewest.member
  | cons head tail induction =>
      rcases isNewest.cases distinct with ⟨rfl, smaller⟩ | ⟨less, later, tailDistinct⟩
      · have overtaken : ∀ delivery ∈ tail,
            (session.receive newest.number).isStale delivery.number = true := by
          intro delivery member
          simp [Session.isStale_receive, (smaller delivery member).le]
        rw [effectsOfAll_cons, step_of_reports polling reports,
          effectsOfAll_of_stale rfl overtaken, List.append_nil]
        split <;> rfl
      · rcases allReport head List.mem_cons_self with ⟨headReport, headReports⟩
        have unchanged : (session.receive head.number).isStale newest.number =
            session.isStale newest.number := by
          simp [Session.isStale_receive, Nat.not_le.mpr less]
        have received := phase_withSession poller (session.receive head.number)
        have last := induction received allReport.tail tailDistinct later
        rw [effectsOfAll_cons, step_of_reports polling headReports, List.getLast?_append, last,
          unchanged]
        cases stale : session.isStale newest.number with
        | true => simp [Session.isStale_of_le less.le stale]
        | false => simp

theorem lastShown_of_reports (polling : poller.phase = .polling session)
    (allReport : AllReport deliveries) :
    lastShown (poller.effectsOfAll deliveries) = (poller.effectsOfAll deliveries).getLast? := by
  rw [lastShown, List.filter_eq_self.mpr (isShown_of_reports polling allReport)]

/-- What is seen in the end does not depend on the order. -/
theorem lastShown_of_perm (polling : poller.phase = .polling session)
    (allReport : AllReport deliveries) (distinct : Distinct deliveries) {order : List Delivery}
    (perm : order.Perm deliveries) :
    lastShown (poller.effectsOfAll order) = lastShown (poller.effectsOfAll deliveries) := by
  have orderReports : AllReport order := fun delivery member =>
    allReport delivery (perm.mem_iff.mp member)
  rw [lastShown_of_reports polling orderReports, lastShown_of_reports polling allReport]
  by_cases empty : deliveries = []
  · subst empty
    rw [List.perm_nil.mp perm]
  · rcases exists_newest empty with ⟨newest, isNewest⟩
    rcases allReport newest isNewest.member with ⟨report, reports⟩
    rw [getLast?_effectsOfAll polling orderReports (distinct.perm perm) (isNewest.perm perm) reports,
      getLast?_effectsOfAll polling allReport distinct isNewest reports]

/-- Reports, and then the end of the session. -/
def EndsOnce (session : Session) (effects : List Effect) : Prop :=
  ∃ reports reason, (∀ report ∈ reports, report.isShown = true) ∧
    effects = reports ++ [.cancelTimer session.timer, .stopped session.job reason,
      .refreshCompleted session.job]

theorem EndsOnce.after {session : Session} {effects : List Effect}
    (endsOnce : EndsOnce (session.receive number) effects) (shown : report.isShown = true) :
    EndsOnce session (report :: effects) := by
  rcases endsOnce with ⟨others, reason, othersShown, rfl⟩
  refine ⟨report :: others, reason, ?_, by simp⟩
  intro effect member
  rcases List.mem_cons.mp member with rfl | later
  · exact shown
  · exact othersShown effect later

/-- The polling ends, with the newest answer or with one that comes before it. -/
theorem endsOnce_of_newest (polling : poller.phase = .polling session)
    (distinct : Distinct deliveries) (isNewest : Newest newest deliveries)
    (fresh : session.isStale newest.number = false) (ends : Ends newest.outcome reason) :
    (poller.afterAll deliveries).phase = .stopped ∧
      EndsOnce session (poller.effectsOfAll deliveries) := by
  induction deliveries generalizing poller session with
  | nil => cases isNewest.member
  | cons head tail induction =>
      have stops (last : StopReason) (step : poller.step (.answer head.number head.outcome) =
          ({ poller with phase := .stopped }, [.cancelTimer session.timer,
            .stopped session.job last, .refreshCompleted session.job])) :
          (poller.afterAll (head :: tail)).phase = .stopped ∧
            EndsOnce session (poller.effectsOfAll (head :: tail)) := by
        have resting : ({ poller with phase := .stopped } : Poller).session? = none := rfl
        have rest := all_of_resting resting tail
        rw [afterAll_cons, effectsOfAll_cons, step, rest.1, rest.2]
        exact ⟨rfl, [], last, nofun, rfl⟩
      rcases isNewest.cases distinct with ⟨rfl, -⟩ | ⟨less, later, tailDistinct⟩
      · exact stops reason (step_of_ends polling fresh ends)
      · cases late : session.isStale head.number with
        | true =>
            rw [afterAll_cons, effectsOfAll_cons, step_of_stale polling late]
            exact induction polling tailDistinct later fresh
        | false =>
            rcases reports_or_ends head.outcome with ⟨report, reports⟩ | ⟨first, headEnds⟩
            · have stillFresh : (session.receive head.number).isStale newest.number = false := by
                simp [Session.isStale_receive, fresh, less]
              rw [afterAll_cons, effectsOfAll_cons, step_of_reports polling reports, late]
              have received := phase_withSession poller (session.receive head.number)
              rcases induction received tailDistinct later stillFresh with ⟨stopped, endsOnce⟩
              exact ⟨stopped, endsOnce.after reports.isShown⟩
            · exact stops first (step_of_ends polling late headEnds)

/-! What belongs to a session. -/

/-- The operation was carried out in the session that is there after all that is past. -/
structure Within (poller : Poller) (past earlier : List Operation) (operation : Operation)
    (later : List Operation) : Prop where
  split : past = earlier ++ operation :: later
  sameTimer : (poller.after earlier).activeTimer = (poller.after past).activeTimer

/-- The session has asked for the fetch, and has had no answer to it since. -/
def Awaited (poller : Poller) (past : List Operation) (number : Nat) : Prop :=
  ∃ earlier operation later job, poller.Within past earlier operation later ∧
    .fetch job number ∈ ((poller.after earlier).step operation).2 ∧
    ∀ outcome, .answer number outcome ∉ later

/-- The session has applied an answer to the fetch. -/
def HasApplied (poller : Poller) (past : List Operation) (number : Nat) : Prop :=
  ∃ earlier outcome later, poller.Within past earlier (.answer number outcome) later ∧
    ((poller.after earlier).step (.answer number outcome)).2 ≠ []

theorem activeTimer_of_polling (polling : poller.phase = .polling session) :
    poller.activeTimer = some session.timer :=
  activeTimer_eq_some_iff.mpr ⟨session, polling, rfl⟩

theorem firstFetch_le_of_awaited {timing : PollTiming} {past : List Operation}
    (polling : ((new timing).after past).phase = .polling session)
    (awaited : (new timing).Awaited past number) : session.firstFetch ≤ number := by
  rcases awaited with ⟨earlier, operation, later, job, within, fetched, -⟩
  rcases fetch_of_step fetched with ⟨⟨asking, askingPolling, -⟩, rfl, -⟩
  have timers := within.sameTimer
  rw [activeTimer_of_polling askingPolling, activeTimer_of_polling polling,
    Option.some.injEq] at timers
  rw [within.split, after_append] at polling
  have numbers := numbers_of_session askingPolling
  rcases begun_or_continues polling with ⟨timer, -⟩ | ⟨before, beforePolling, continues⟩
  · omega
  · rw [askingPolling] at beforePolling
    cases beforePolling
    rw [continues.firstFetch]
    exact numbers.2

theorem hasApplied_of_lastApplied {timing : PollTiming} {past : List Operation}
    (polling : ((new timing).after past).phase = .polling session)
    (applied : session.lastApplied = some number) : (new timing).HasApplied past number := by
  induction past using List.reverseRecOn generalizing session with
  | nil => cases polling
  | append_singleton past last induction =>
      have active := activeTimer_of_polling polling
      rw [after_concat] at polling
      rcases session_of_step polling with
        begins | ⟨before, beforePolling, continues, sameApplied | answered⟩
      · rw [begins.lastApplied] at applied
        cases applied
      · rcases induction beforePolling (sameApplied ▸ applied) with
          ⟨earlier, outcome, later, within, applies⟩
        have timers := within.sameTimer
        rw [activeTimer_of_polling beforePolling, ← continues.timer, ← active] at timers
        exact ⟨earlier, outcome, later ++ [last], ⟨by simp [within.split], timers⟩, applies⟩
      · rcases answered with ⟨latest, outcome, rfl, fresh, lastApplied⟩
        rw [lastApplied, Option.some.injEq] at applied
        subst applied
        have timers := activeTimer_of_polling beforePolling
        rw [← continues.timer, ← active] at timers
        exact ⟨past, outcome, [], ⟨rfl, timers⟩,
          applies_iff.mpr ⟨before, beforePolling, fresh⟩⟩

/-- A session receives the answers that it awaits in any order. If none of them ends it, all orders
lead to one poller, and what is shown last is the same in all of them: nothing, or the answer to
the latest fetch. If that answer ends the session and is later than all that were applied, every
order stops the polling, with one end after the reports. -/
theorem delivery_order_immaterial (timing : PollTiming) (past : List Operation) {session : Session}
    (polling : ((new timing).after past).phase = .polling session) (deliveries : List Delivery)
    (distinct : Distinct deliveries)
    (awaited : ∀ delivery ∈ deliveries, (new timing).Awaited past delivery.number) :
    let poller := (new timing).after past
    (AllReport deliveries →
        ∃ final shown, ∀ order : List Delivery, order.Perm deliveries →
          poller.afterAll order = final ∧ lastShown (poller.effectsOfAll order) = shown ∧
            ∀ newest, Newest newest deliveries → ∀ report ∈ shown, Reports newest.outcome report) ∧
      ∀ newest, Newest newest deliveries → (∃ reason, Ends newest.outcome reason) →
        (∀ number, (new timing).HasApplied past number → number < newest.number) →
          ∀ order : List Delivery, order.Perm deliveries →
            (poller.afterAll order).phase = .stopped ∧
              EndsOnce session (poller.effectsOfAll order) := by
  intro poller
  constructor
  · intro allReport
    refine ⟨poller.afterAll deliveries, lastShown (poller.effectsOfAll deliveries), ?_⟩
    intro order perm
    refine ⟨afterAll_of_perm polling allReport perm,
      lastShown_of_perm polling allReport distinct perm, ?_⟩
    intro newest isNewest report isLast
    rcases allReport newest isNewest.member with ⟨shown, reports⟩
    rw [lastShown_of_reports polling allReport,
      getLast?_effectsOfAll polling allReport distinct isNewest reports] at isLast
    split at isLast
    · cases isLast
    · cases isLast
      exact reports
  · intro newest isNewest ends latest order perm
    rcases ends with ⟨reason, ends⟩
    have fresh : session.isStale newest.number = false := by
      apply Session.isStale_eq_false_iff.mpr
      constructor
      · exact firstFetch_le_of_awaited polling (awaited newest isNewest.member)
      · intro applied isLast
        exact latest applied (hasApplied_of_lastApplied polling isLast)
    exact endsOnce_of_newest polling (distinct.perm perm) (isNewest.perm perm) fresh ends

/-- Two fetches fail, and then the second of two finds no runs. -/
theorem delivery_order_immaterial_of_two :
    let timing : PollTiming := ⟨.ofSeconds 3, .ofSeconds 2⟩
    let past : List Operation := [.start "a" .observed, .tick 1, .tick 1]
    let poller := (new timing).after past
    ((new timing).Awaited past 1 ∧ (new timing).Awaited past 2) ∧
      poller.afterAll [⟨2, .error "timeout"⟩, ⟨1, .error "refused"⟩] =
        poller.afterAll [⟨1, .error "refused"⟩, ⟨2, .error "timeout"⟩] ∧
      (poller.afterAll [⟨2, .ok []⟩, ⟨1, .error "refused"⟩]).phase = .stopped ∧
      (poller.afterAll [⟨1, .error "refused"⟩, ⟨2, .ok []⟩]).phase = .stopped := by
  intro timing past poller
  have first : (new timing).Awaited past 1 :=
    ⟨[.start "a" .observed], .tick 1, [.tick 1], "a", ⟨rfl, by decide +kernel⟩,
      by decide +kernel, by simp⟩
  have second : (new timing).Awaited past 2 :=
    ⟨[.start "a" .observed, .tick 1], .tick 1, [], "a", ⟨rfl, by decide +kernel⟩,
      by decide +kernel, by simp⟩
  have both (earlier later : Except String (List Run)) :
      ∀ delivery ∈ [Delivery.mk 1 earlier, ⟨2, later⟩],
        (new timing).Awaited past delivery.number := by
    simpa using ⟨first, second⟩
  have polling : poller.phase = .polling ⟨"a", 1, 1, none⟩ := by decide +kernel
  have noneApplied : ∀ number, (new timing).HasApplied past number → number < 2 := by
    intro number applied
    rcases applied with ⟨earlier, outcome, later, within, -⟩
    have member : .answer number outcome ∈ past := by simp [within.split]
    simp [past] at member
  have failing := delivery_order_immaterial timing past polling
    [⟨1, .error "refused"⟩, ⟨2, .error "timeout"⟩] (by simp [Distinct]) (both _ _)
  have ending := delivery_order_immaterial timing past polling
    [⟨1, .error "refused"⟩, ⟨2, .ok []⟩] (by simp [Distinct]) (both _ _)
  have allReport : AllReport [⟨1, .error "refused"⟩, ⟨2, .error "timeout"⟩] := by
    simpa [AllReport] using
      ⟨⟨_, Reports.failure "refused"⟩, ⟨_, Reports.failure "timeout"⟩⟩
  have newest : Newest ⟨2, .ok []⟩ [⟨1, .error "refused"⟩, ⟨2, .ok []⟩] :=
    ⟨by simp, by simp⟩
  rcases failing.1 allReport with ⟨final, shown, every⟩
  have stops := ending.2 _ newest ⟨_, .empty⟩ noneApplied
  exact ⟨⟨first, second⟩, ((every _ (.swap _ _ _)).1).trans (every _ (.refl _)).1.symm,
    (stops _ (.swap _ _ _)).1, (stops _ (.refl _)).1⟩

end Poller

end ExportWatch

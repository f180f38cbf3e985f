import ExportWatch.Proofs.Watch.Course
import ExportWatch.Watch.Follow

/-! The effects of a poller as a queue: each effect is taken from the front, and what
follows from it is put at the back until nothing is left. -/

namespace ExportWatch

namespace Effect

/-- Whether nothing follows from an effect. -/
def isFinal : Effect → Bool
  | .fetch _ _ => false
  | _ => true

end Effect

namespace Watch

variable {State : Type} {backend : Backend State}

inductive Drains (backend : Backend State) : Watch State → List Effect → Watch State → Prop
  | empty (watch : Watch State) : Drains backend watch [] watch
  | next {watch final : Watch State} {head : Effect} {tail : List Effect} :
      Drains backend (watch.perform backend head).1 (tail ++ (watch.perform backend head).2) final →
      Drains backend watch (head :: tail) final

theorem Drains.unique {watch first second : Watch State} {effects : List Effect}
    (left : Drains backend watch effects first) (right : Drains backend watch effects second) :
    first = second := by
  induction left with
  | empty watch =>
      cases right
      rfl
  | next _ induction =>
      cases right with
      | next rest => exact induction rest

/-- What is in the queue may be carried out first, with all that follows put behind. -/
theorem drains_of_performAll {watch final : Watch State} (effects others : List Effect)
    (rest : Drains backend (watch.performAll backend effects).1
      (others ++ (watch.performAll backend effects).2) final) :
    Drains backend watch (effects ++ others) final := by
  induction effects generalizing watch others with
  | nil => simpa [performAll] using rest
  | cons head tail induction =>
      rw [List.cons_append]
      apply Drains.next
      rw [List.append_assoc]
      apply induction
      simpa [performAll] using rest

theorem answer_final (poller : Poller) (number : Nat) (outcome : Except String (List Run)) :
    ∀ effect ∈ (poller.answer number outcome).2, effect.isFinal = true := by
  have move := poller.step_moves (.answer number outcome)
  change Poller.Move poller _ (poller.answer number outcome).1 _ at move
  rw [Poller.step] at move
  generalize poller.answer number outcome = answered at move
  rcases answered with ⟨next, effects⟩
  cases move with
  | ignored _ => simp
  | opened opens _ => cases opens
  | reported _ _ reports => cases reports <;> simp [Effect.isFinal]
  | finished _ _ _ => simp [Effect.isFinal]

theorem perform_final (watch : Watch State) (effect : Effect) :
    ∀ next ∈ (watch.perform backend effect).2, next.isFinal = true := by
  cases effect with
  | fetch job number => exact answer_final _ number _
  | _ => simp [perform]

theorem performAll_final (watch : Watch State) (effects : List Effect) :
    ∀ next ∈ (watch.performAll backend effects).2, next.isFinal = true := by
  induction effects generalizing watch with
  | nil => simp [performAll]
  | cons head tail induction =>
      intro next member
      rcases List.mem_append.mp member with first | later
      · exact perform_final watch head next first
      · exact induction _ next later

theorem nothing_follows {watch : Watch State} {effects : List Effect}
    (final : ∀ effect ∈ effects, effect.isFinal = true) :
    (watch.performAll backend effects).2 = [] := by
  induction effects generalizing watch with
  | nil => rfl
  | cons head tail induction =>
      have headFollows : (watch.perform backend head).2 = [] := by
        cases head with
        | fetch job number => cases final _ List.mem_cons_self
        | _ => rfl
      simp only [performAll, headFollows, List.nil_append]
      exact induction fun effect member => final effect (List.mem_cons_of_mem _ member)

theorem drains_carryOut (watch : Watch State) (effects : List Effect) :
    Drains backend watch effects (watch.carryOut backend effects) := by
  rw [← List.append_nil effects]
  apply drains_of_performAll
  rw [List.nil_append, List.append_nil, ← List.append_nil (watch.performAll backend effects).2]
  apply drains_of_performAll
  rw [nothing_follows (performAll_final watch effects)]
  exact .empty _

/-- The effects are carried out as from a queue. -/
theorem drains_iff {watch final : Watch State} {effects : List Effect} :
    Drains backend watch effects final ↔ watch.carryOut backend effects = final := by
  constructor
  · intro drained
    exact (drains_carryOut watch effects).unique drained
  · rintro rfl
    exact drains_carryOut watch effects

end Watch

end ExportWatch

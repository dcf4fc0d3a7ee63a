import Mathlib.Logic.Relation

/-! # Runs of a step relation -/

namespace Foundation

namespace Run

variable {σ : Type} {step : σ → σ → Prop} {invariant : σ → Prop}

/-- What every step preserves, every run preserves. -/
theorem preserves (keeps : ∀ before after, step before after → invariant before →
      invariant after) {initial final : σ}
    (reached : Relation.ReflTransGen step initial final) (holds : invariant initial) :
    invariant final := by
  induction reached with
  | refl => exact holds
  | tail _ last induction => exact keeps _ _ last induction

/-! ## Runs of events -/

section Events

variable {ε : Type} (perform : σ → ε → Option σ)

/-- The events one after the other; none where one of them cannot happen. -/
def events (state : σ) : List ε → Option σ
  | [] => some state
  | event :: later => (perform state event).bind fun next => events next later

/-- Every step of the run is so. -/
def EveryStep (holds : σ → ε → σ → Prop) (state : σ) : List ε → Prop
  | [] => True
  | event :: later => ∀ next, perform state event = some next →
      holds state event next ∧ EveryStep holds next later

instance EveryStep.decidable {holds : σ → ε → σ → Prop}
    [∀ state event next, Decidable (holds state event next)] :
    ∀ (state : σ) (later : List ε), Decidable (EveryStep perform holds state later)
  | _, [] => .isTrue trivial
  | state, event :: later =>
      match performed : perform state event with
      | none => .isTrue fun next found => by simp [performed] at found
      | some next =>
          have : Decidable (EveryStep perform holds next later) := EveryStep.decidable next later
          decidable_of_iff (holds state event next ∧ EveryStep perform holds next later) (by
            simp [EveryStep, performed])

variable {perform}

/-- What is so of every step is so of the one after any start of the run. -/
theorem EveryStep.holdsAfter {holds : σ → ε → σ → Prop} {state before after : σ} {event : ε}
    {earlier later : List ε} (every : EveryStep perform holds state (earlier ++ event :: later))
    (ran : events perform state earlier = some before)
    (performed : perform before event = some after) : holds before event after := by
  induction earlier generalizing state with
  | nil =>
      cases ran
      exact (every after performed).1
  | cons first earlier induction =>
      rw [events, Option.bind_eq_some_iff] at ran
      obtain ⟨next, stepped, ran⟩ := ran
      exact induction (every next stepped).2 ran

/-- A run whose steps all meet a condition has what an invariant gives to such steps. -/
theorem EveryStep.of_invariant {condition holds : σ → ε → σ → Prop}
    (keeps : ∀ state event next, invariant state → perform state event = some next →
      condition state event next → invariant next ∧ holds state event next)
    {state : σ} {later : List ε} (initially : invariant state)
    (conditions : EveryStep perform condition state later) :
    EveryStep perform holds state later := by
  induction later generalizing state with
  | nil => trivial
  | cons event later induction =>
      intro next performed
      obtain ⟨condition, conditions⟩ := conditions next performed
      obtain ⟨kept, held⟩ := keeps state event next initially performed condition
      exact ⟨held, induction kept conditions⟩

end Events

end Run

end Foundation

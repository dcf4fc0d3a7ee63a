import Mathlib.Algebra.Order.Field.Basic
import Mathlib.Tactic.Linarith
import Mathlib.Tactic.Ring

/-! # Token buckets

A bucket holds at most `capacity` tokens and is refilled at a constant rate. A request
takes a token when there is a whole one. -/

namespace Foundation

namespace TokenBucket

variable {K : Type} [Field K] [LinearOrder K]

/-- The tokens after some time; time that runs backwards adds none. -/
def refill (capacity rate tokens elapsed : K) : K :=
  min capacity (tokens + max 0 elapsed * rate)

def grants (tokens : K) : Bool :=
  1 ≤ tokens

/-- What a request leaves. -/
def take (tokens : K) : K :=
  if grants tokens then tokens - 1 else tokens

variable {capacity rate tokens elapsed : K}

theorem refill_le_capacity : refill capacity rate tokens elapsed ≤ capacity :=
  min_le_left _ _

theorem refill_le_add (forward : 0 ≤ elapsed) :
    refill capacity rate tokens elapsed ≤ tokens + elapsed * rate := by
  rw [refill, max_eq_right forward]
  exact min_le_right _ _

/-- Long enough after a request the bucket is full. -/
theorem refill_eq_capacity (enough : capacity ≤ tokens + max 0 elapsed * rate) :
    refill capacity rate tokens elapsed = capacity :=
  min_eq_left enough

/-- A request that is refused leaves the bucket as it was. -/
theorem take_of_refused (refused : grants tokens = false) : take tokens = tokens := by
  rw [take, refused]
  rfl

/-- A grant costs a token. -/
theorem granted_add_take (tokens : K) :
    (if grants tokens then 1 else 0) + take tokens = tokens := by
  unfold take
  split
  · ring
  · ring

variable [IsStrictOrderedRing K]

theorem refill_nonneg (full : 0 ≤ capacity) (flows : 0 ≤ rate) (holds : 0 ≤ tokens) :
    0 ≤ refill capacity rate tokens elapsed := by
  apply le_min full
  have added : 0 ≤ max 0 elapsed * rate := mul_nonneg (le_max_left _ _) flows
  linarith

/-- Time passes in one piece or in two. -/
theorem refill_refill {first second : K} (flows : 0 ≤ rate) (earlier : 0 ≤ first)
    (later : 0 ≤ second) :
    refill capacity rate (refill capacity rate tokens first) second =
      refill capacity rate tokens (first + second) := by
  have added : 0 ≤ second * rate := mul_nonneg later flows
  rw [refill, refill, refill, max_eq_right earlier, max_eq_right later,
    max_eq_right (add_nonneg earlier later), ← min_add_add_right, ← min_assoc, add_mul,
    ← add_assoc]
  congr 1
  apply min_eq_left
  linarith

theorem take_nonneg (holds : 0 ≤ tokens) : 0 ≤ take tokens := by
  unfold take grants
  split
  · rename_i whole
    have enough : 1 ≤ tokens := by simpa using whole
    linarith
  · exact holds

theorem take_le : take tokens ≤ tokens := by
  unfold take
  split
  · linarith
  · exact le_refl _

end TokenBucket

end Foundation

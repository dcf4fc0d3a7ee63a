import Mathlib.Data.List.Infix

/-! # Searching a sequence for a part of it

`find` with a start, as on `bytes`, and what it says about where the part occurs. -/

namespace Foundation

variable {α : Type} [DecidableEq α]

/-- The part stands at this position of the whole. -/
def OccursAt (whole part : List α) (start : Nat) : Prop :=
  start ≤ whole.length ∧ part <+: whole.drop start

instance (whole part : List α) (start : Nat) : Decidable (OccursAt whole part start) :=
  inferInstanceAs (Decidable (_ ∧ _))

def find (part : List α) : List α → Option Nat
  | [] => if part = [] then some 0 else none
  | head :: rest =>
      if part <+: head :: rest then some 0 else (find part rest).map (· + 1)

/-- `whole.find(part, start)`; none for -1. -/
def findFrom (whole part : List α) (start : Nat) : Option Nat :=
  if start ≤ whole.length then (find part (whole.drop start)).map (· + start) else none

omit [DecidableEq α] in
theorem occursAt_cons_succ {head : α} {rest part : List α} {start : Nat} :
    OccursAt (head :: rest) part (start + 1) ↔ OccursAt rest part start := by
  simp [OccursAt]

theorem find_eq_some_iff {part whole : List α} {start : Nat} :
    find part whole = some start ↔
      OccursAt whole part start ∧ ∀ earlier < start, ¬ OccursAt whole part earlier := by
  induction whole generalizing start with
  | nil =>
      cases part with
      | nil =>
          simp only [find, if_true, Option.some.injEq, OccursAt, List.length_nil, Nat.le_zero,
            List.nil_prefix, and_true]
          constructor
          · intro start_eq
            subst start_eq
            exact ⟨rfl, fun earlier before => absurd before (Nat.not_lt_zero _)⟩
          · intro found
            exact found.1.symm
      | cons first others => simp [find, OccursAt]
  | cons head rest induction =>
      by_cases here : part <+: head :: rest
      · have first : OccursAt (head :: rest) part 0 := ⟨Nat.zero_le _, here⟩
        simp only [find, here, if_true, Option.some.injEq]
        constructor
        · intro start_eq
          subst start_eq
          exact ⟨first, fun earlier before => absurd before (Nat.not_lt_zero _)⟩
        · intro found
          cases start with
          | zero => rfl
          | succ start => exact absurd first (found.2 0 (Nat.succ_pos _))
      · simp only [find, here, if_false, Option.map_eq_some_iff]
        cases start with
        | zero => simp [OccursAt, here]
        | succ start =>
            simp only [Nat.add_right_cancel_iff, exists_eq_right, occursAt_cons_succ]
            rw [induction]
            apply and_congr_right
            intro _
            constructor
            · intro absent earlier before
              cases earlier with
              | zero => simp [OccursAt, here]
              | succ earlier =>
                  rw [occursAt_cons_succ]
                  exact absent earlier (by omega)
            · intro absent earlier before
              rw [← occursAt_cons_succ]
              exact absent (earlier + 1) (by omega)

theorem find_eq_none_iff {part whole : List α} :
    find part whole = none ↔ ∀ start, ¬ OccursAt whole part start := by
  induction whole with
  | nil =>
      cases part <;> simp [find, OccursAt]
  | cons head rest induction =>
      by_cases here : part <+: head :: rest
      · simp only [find, here, if_true, reduceCtorEq, false_iff, not_forall, not_not]
        exact ⟨0, Nat.zero_le _, here⟩
      · simp only [find, here, if_false, Option.map_eq_none_iff, induction]
        constructor
        · intro absent start
          cases start with
          | zero => simp [OccursAt, here]
          | succ start =>
              rw [occursAt_cons_succ]
              exact absent start
        · intro absent start
          rw [← occursAt_cons_succ]
          exact absent (start + 1)

variable {whole part : List α}

omit [DecidableEq α] in
theorem occursAt_drop {start offset : Nat} (inside : start ≤ whole.length) :
    OccursAt (whole.drop start) part offset ↔ OccursAt whole part (offset + start) := by
  simp only [OccursAt, List.length_drop, List.drop_drop, Nat.add_comm start]
  apply and_congr_left'
  omega

theorem findFrom_eq_some_iff {start found : Nat} :
    findFrom whole part start = some found ↔ OccursAt whole part found ∧ start ≤ found ∧
      ∀ earlier < found, start ≤ earlier → ¬ OccursAt whole part earlier := by
  unfold findFrom
  split
  · next inside =>
    simp only [Option.map_eq_some_iff, find_eq_some_iff, occursAt_drop inside]
    constructor
    · intro ⟨offset, ⟨occurs, first⟩, found_eq⟩
      subst found_eq
      refine ⟨occurs, by omega, fun earlier before after => ?_⟩
      have := first (earlier - start) (by omega)
      rwa [Nat.sub_add_cancel after] at this
    · intro ⟨occurs, after, first⟩
      refine ⟨found - start, ⟨?_, fun earlier before => ?_⟩, by omega⟩
      · rwa [Nat.sub_add_cancel after]
      · exact first (earlier + start) (by omega) (by omega)
  · next outside =>
    simp only [reduceCtorEq, false_iff]
    intro ⟨occurs, after, _⟩
    exact outside (after.trans occurs.1)

theorem findFrom_eq_none_iff {start : Nat} :
    findFrom whole part start = none ↔ ∀ later, start ≤ later → ¬ OccursAt whole part later := by
  unfold findFrom
  split
  · next inside =>
    simp only [Option.map_eq_none_iff, find_eq_none_iff, occursAt_drop inside]
    constructor
    · intro absent later after
      have := absent (later - start)
      rwa [Nat.sub_add_cancel after] at this
    · intro absent offset
      exact absent (offset + start) (Nat.le_add_left _ _)
  · next outside =>
    simp only [true_iff]
    intro later after occurs
    exact outside (after.trans occurs.1)

omit [DecidableEq α] in
theorem exists_occursAt_iff :
    (∃ start, OccursAt whole part start) ↔ part <:+: whole := by
  constructor
  · intro ⟨start, _, stands⟩
    exact stands.isInfix.trans (List.drop_suffix start whole).isInfix
  · intro ⟨before, after, whole_eq⟩
    subst whole_eq
    refine ⟨before.length, by simp, after, ?_⟩
    simp

omit [DecidableEq α] in
/-- The span that an occurrence covers is the part. -/
theorem OccursAt.span {start : Nat} (occurs : OccursAt whole part start) :
    (whole.drop start).take part.length = part := by
  obtain ⟨_, after, whole_eq⟩ := occurs
  rw [← whole_eq, List.take_left']
  rfl

omit [DecidableEq α] in
theorem OccursAt.le {start : Nat} (occurs : OccursAt whole part start) :
    start + part.length ≤ whole.length := by
  have bound := occurs.2.length_le
  have inside := occurs.1
  rw [List.length_drop] at bound
  omega

end Foundation

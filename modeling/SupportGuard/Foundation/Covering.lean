import Mathlib.Data.List.Infix

/-! # Runs that cover a list

A list is cut into runs that may overlap. Each run joins what the runs before it have covered
and goes further. -/

namespace Foundation

variable {Item : Type}

/-- The items from the first index up to the second. -/
def slice (items : List Item) (span : Nat × Nat) : List Item :=
  (items.take span.2).drop span.1

theorem slice_eq_nil (items : List Item) {span : Nat × Nat} (empty : span.2 ≤ span.1) :
    slice items span = [] := by
  rw [slice, List.drop_eq_nil_iff]
  exact Nat.le_trans (List.length_take_le _ _) empty

theorem slice_self (items : List Item) (index : Nat) : slice items (index, index) = [] :=
  slice_eq_nil items (Nat.le_refl index)

theorem length_slice (items : List Item) {span : Nat × Nat} (bounded : span.2 ≤ items.length) :
    (slice items span).length = span.2 - span.1 := by
  rw [slice, List.length_drop, List.length_take, Nat.min_eq_left bounded]

theorem slice_ne_nil (items : List Item) {span : Nat × Nat} (bounded : span.2 ≤ items.length)
    (filled : span.1 < span.2) : slice items span ≠ [] := by
  apply List.ne_nil_of_length_pos
  rw [length_slice items bounded]
  omega

theorem slice_concat {before rest : List Item} {item : Item} {first : Nat}
    (inside : first ≤ before.length) :
    slice (before ++ item :: rest) (first, before.length) ++ [item] =
      slice (before ++ item :: rest) (first, before.length + 1) := by
  have whole : (before ++ item :: rest).take (before.length + 1) = before ++ [item] := by
    rw [List.take_append, List.take_of_length_le (Nat.le_succ _), Nat.add_sub_cancel_left]
    rfl
  rw [slice, slice, whole, List.take_left, List.drop_append_of_le_length inside]

theorem drop_slice (items : List Item) (first stop count : Nat) :
    (slice items (first, stop)).drop count = slice items (first + count, stop) :=
  List.drop_drop ..

/-- The first index of the last run, the index up to which everything is covered, and the
runs. -/
inductive Covering : Nat → Nat → List (Nat × Nat) → Prop
  | none : Covering 0 0 []
  | more {start covered : Nat} {spans : List (Nat × Nat)} {span : Nat × Nat}
      (before : Covering start covered spans) (after : start ≤ span.1)
      (joins : span.1 ≤ covered) (further : covered < span.2) :
      Covering span.1 span.2 (spans ++ [span])

namespace Covering

variable {start covered : Nat} {spans : List (Nat × Nat)}

theorem bounds (cover : Covering start covered spans) :
    ∀ span ∈ spans, span.1 < span.2 ∧ span.1 ≤ start ∧ span.2 ≤ covered := by
  induction cover with
  | none => exact fun _ member => absurd member List.not_mem_nil
  | more _ after joins further induction =>
      intro other member
      rcases List.mem_append.mp member with old | last
      · have inside := induction other old
        omega
      · rw [List.mem_singleton.mp last]
        omega

/-- Later runs start no earlier and end later. -/
theorem ordered (cover : Covering start covered spans) :
    spans.Pairwise fun earlier later => earlier.1 ≤ later.1 ∧ earlier.2 < later.2 := by
  induction cover with
  | none => exact List.Pairwise.nil
  | @more _ _ _ span before after joins further induction =>
      rw [List.pairwise_append]
      apply And.intro induction
      apply And.intro (List.pairwise_singleton _ span)
      intro earlier member later last
      rw [List.mem_singleton.mp last]
      have inside := before.bounds earlier member
      omega

/-- Every index up to the bound is in a run. -/
theorem reaches (cover : Covering start covered spans) {index : Nat} (inside : index < covered) :
    ∃ span ∈ spans, span.1 ≤ index ∧ index < span.2 := by
  induction cover with
  | none => exact absurd inside (Nat.not_lt_zero index)
  | @more start covered _ span _ _ joins _ induction =>
      by_cases old : index < covered
      · obtain ⟨earlier, member, holds⟩ := induction old
        exact ⟨earlier, List.mem_append_left _ member, holds⟩
      · apply Exists.intro span
        apply And.intro (List.mem_append_right _ (List.mem_singleton_self span))
        omega

/-- The runs together have the covered items in order. -/
theorem sublist (cover : Covering start covered spans) (items : List Item) :
    (items.take covered).Sublist (spans.flatMap (slice items)) := by
  induction cover with
  | none => exact List.nil_sublist _
  | @more start covered spans span _ _ joins further induction =>
      have parted : items.take span.2 =
          items.take covered ++ (items.take span.2).drop covered := by
        have start := List.take_append_drop covered (items.take span.2)
        rw [List.take_take, Nat.min_eq_left (Nat.le_of_lt further)] at start
        exact start.symm
      have ending : ((items.take span.2).drop covered).Sublist (slice items span) := by
        have later := List.drop_suffix (covered - span.1) (slice items span)
        rw [slice, List.drop_drop, Nat.add_sub_cancel' joins] at later
        exact later.sublist
      rw [parted, List.flatMap_append, List.flatMap_singleton]
      exact induction.append ending

end Covering

end Foundation

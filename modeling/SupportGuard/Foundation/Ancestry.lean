import Mathlib.Data.List.Basic
import Mathlib.Data.List.Induction

/-! # Enclosing items

Items with levels, one after the other. An item encloses what follows it up to the next item
whose level is not greater. A stack that is cut at the level of each item that comes knows the
enclosing items where no level has been skipped. -/

namespace Foundation

namespace Ancestry

variable {Item : Type} (level : Item → Nat)

/-- The items that enclose the place after the last one, the outermost first. -/
def enclosing : List Item → List Item
  | [] => []
  | item :: later =>
      if ∀ other ∈ later, level item < level other then item :: enclosing later
      else enclosing later

/-- `stack[level - 1:] = [item]`. -/
def push (stack : List Item) (item : Item) : List Item :=
  stack.take (level item - 1) ++ [item]

def stacked (items : List Item) : List Item :=
  items.foldl (push level) []

/-- Read from the last item back: the last item has an enclosing item on each level above its
own, or the item before it is on such a level, there being none at all in front of the first
item, and that one is placed. -/
def Placed : List Item → Prop
  | [] => True
  | item :: earlier =>
      (enclosing level (item :: earlier).reverse).length = level item ∨
        (∀ previous ∈ earlier.head?, level previous < level item) ∧ Placed earlier

instance Placed.decidable : ∀ items : List Item, Decidable (Placed level items)
  | [] => .isTrue trivial
  | item :: earlier =>
      have : Decidable (Placed level earlier) := Placed.decidable earlier
      inferInstanceAs (Decidable ((enclosing level (item :: earlier).reverse).length = level item ∨
        (∀ previous ∈ earlier.head?, level previous < level item) ∧ Placed level earlier))

variable {level} {items : List Item} {item : Item}

theorem stacked_concat (items : List Item) (item : Item) :
    stacked level (items ++ [item]) = push level (stacked level items) item := by
  rw [stacked, List.foldl_append]
  rfl

/-- An item leaves the enclosing items of a lower level. -/
theorem enclosing_concat (items : List Item) (item : Item) :
    enclosing level (items ++ [item]) =
      (enclosing level items).filter (fun other => level other < level item) ++ [item] := by
  induction items with
  | nil => simp [enclosing]
  | cons first later induction =>
      rw [List.cons_append, enclosing, enclosing, induction]
      by_cases above : ∀ other ∈ later, level first < level other
      · by_cases below : level first < level item
        · have every : ∀ other ∈ later ++ [item], level first < level other := by
            intro other member
            rcases List.mem_append.mp member with inside | last
            · exact above other inside
            · rw [List.mem_singleton.mp last]
              exact below
          rw [if_pos every, if_pos above, List.filter_cons, if_pos (decide_eq_true below),
            List.cons_append]
        · have stopped : ¬∀ other ∈ later ++ [item], level first < level other :=
            fun every => below (every item (List.mem_append_right _ (List.mem_singleton_self item)))
          rw [if_neg stopped, if_pos above, List.filter_cons,
            if_neg fun held => below (of_decide_eq_true held)]
      · have stopped : ¬∀ other ∈ later ++ [item], level first < level other :=
          fun every => above fun other inside => every other (List.mem_append_left _ inside)
        rw [if_neg stopped, if_neg above]

/-! ## The stack -/

/-- An entry of the stack does not stand deeper than its level. -/
theorem stacked_level (positive : ∀ item ∈ items, 0 < level item) {index : Nat}
    (entry : (stacked level items)[index]? = some item) : index < level item := by
  induction items using List.reverseRecOn generalizing index with
  | nil => simp [stacked] at entry
  | append_singleton items last induction =>
      have lastPositive := positive last (List.mem_append_right _ (List.mem_singleton_self last))
      rw [stacked_concat, push, List.getElem?_append, List.length_take] at entry
      split at entry
      · rw [List.getElem?_take_of_lt (by omega)] at entry
        exact induction (fun other member => positive other (List.mem_append_left _ member)) entry
      · obtain ⟨bound, last_eq⟩ := List.getElem?_eq_some_iff.mp entry
        simp only [List.length_singleton] at bound
        simp only [List.getElem_singleton] at last_eq
        subst last_eq
        omega

theorem level_of_mem_drop (positive : ∀ item ∈ items, 0 < level item) {depth : Nat}
    (member : item ∈ (stacked level items).drop depth) : depth < level item := by
  obtain ⟨index, entry⟩ := List.mem_iff_getElem?.mp member
  rw [List.getElem?_drop] at entry
  have bound := stacked_level positive entry
  omega

/-- Below a depth the stack keeps nothing of a level up to it. -/
theorem filter_stacked (positive : ∀ item ∈ items, 0 < level item) (depth : Nat) :
    (stacked level items).filter (fun other => level other < depth + 1) =
      ((stacked level items).take depth).filter (fun other => level other < depth + 1) := by
  have none_below :
      ((stacked level items).drop depth).filter (fun other => level other < depth + 1) = [] := by
    rw [List.filter_eq_nil_iff]
    intro other member
    have deep := level_of_mem_drop positive member
    simp only [decide_eq_true_eq]
    omega
  have parted := congrArg (List.filter fun other => decide (level other < depth + 1))
    (List.take_append_drop depth (stacked level items))
  rw [List.filter_append, none_below, List.append_nil] at parted
  exact parted.symm

/-- The stack has every enclosing item, in order. -/
theorem enclosing_sublist (positive : ∀ item ∈ items, 0 < level item) :
    (enclosing level items).Sublist (stacked level items) := by
  induction items using List.reverseRecOn with
  | nil => exact List.Sublist.slnil
  | append_singleton items last induction =>
      have lastPositive := positive last (List.mem_append_right _ (List.mem_singleton_self last))
      have positive : ∀ item ∈ items, 0 < level item :=
        fun other member => positive other (List.mem_append_left _ member)
      obtain ⟨depth, last_level⟩ := Nat.exists_eq_succ_of_ne_zero (Nat.ne_of_gt lastPositive)
      rw [enclosing_concat, stacked_concat, push, last_level]
      apply List.Sublist.append _ (List.Sublist.refl _)
      have kept := (induction positive).filter fun other => decide (level other < depth + 1)
      rw [filter_stacked positive] at kept
      exact kept.trans List.filter_sublist

theorem stacked_eq_nil (none : enclosing level items = []) : stacked level items = [] := by
  induction items using List.reverseRecOn with
  | nil => rfl
  | append_singleton items last _ =>
      rw [enclosing_concat] at none
      exact absurd none (List.append_ne_nil_of_right_ne_nil _ (List.cons_ne_nil _ _))

/-- The level of the innermost enclosing item is above every other one. -/
theorem enclosing_below (items : List Item) (last : Item) {bound : Nat}
    (below : level last < bound) :
    ∀ other ∈ enclosing level (items ++ [last]), level other < bound := by
  intro other member
  rw [enclosing_concat, List.mem_append] at member
  rcases member with outer | inner
  · have lower := of_decide_eq_true (List.mem_filter.mp outer).2
    omega
  · rw [List.mem_singleton.mp inner]
    exact below

theorem placed_cons (items : List Item) (item : Item) :
    Placed level (items ++ [item]).reverse ↔
      (enclosing level (items ++ [item])).length = level item ∨
        (∀ previous ∈ items.getLast?, level previous < level item) ∧
          Placed level items.reverse := by
  rw [List.reverse_append, List.reverse_singleton, List.singleton_append, Placed,
    List.reverse_cons, List.reverse_reverse, List.head?_reverse]

/-- The stack is the enclosing items exactly where the last item is placed. -/
theorem stacked_eq_enclosing_iff (positive : ∀ item ∈ items, 0 < level item) :
    stacked level items = enclosing level items ↔ Placed level items.reverse := by
  induction items using List.reverseRecOn with
  | nil => exact iff_of_true rfl trivial
  | append_singleton items item induction =>
      have itemPositive := positive item (List.mem_append_right _ (List.mem_singleton_self item))
      have positive : ∀ item ∈ items, 0 < level item :=
        fun other member => positive other (List.mem_append_left _ member)
      have within := enclosing_sublist positive
      obtain ⟨depth, item_level⟩ := Nat.exists_eq_succ_of_ne_zero (Nat.ne_of_gt itemPositive)
      have kept :
          ((enclosing level items).filter fun other => decide (level other < depth + 1)).Sublist
            ((stacked level items).take depth) := by
        have kept := within.filter fun other => decide (level other < depth + 1)
        rw [filter_stacked positive] at kept
        exact kept.trans List.filter_sublist
      rw [placed_cons, enclosing_concat, stacked_concat, push, item_level, List.append_left_inj,
        List.length_append, List.length_singleton, Nat.succ_eq_add_one, Nat.add_sub_cancel,
        Nat.add_right_cancel_iff]
      constructor
      · intro same
        by_cases full : (stacked level items).length < depth
        · -- The whole stack stays, so it is the enclosing items, all of a lower level.
          right
          rw [List.take_of_length_le (Nat.le_of_lt full)] at same
          have whole : stacked level items = enclosing level items := by
            apply List.Sublist.antisymm _ within
            rw [same]
            exact List.filter_sublist
          apply And.intro _ ((induction positive).mp whole)
          intro previous isLast
          have member : previous ∈ stacked level items := by
            obtain ⟨before, items_eq⟩ := List.getLast?_eq_some_iff.mp isLast
            rw [items_eq, stacked_concat]
            exact List.mem_append_right _ (List.mem_singleton_self previous)
          rw [same] at member
          exact of_decide_eq_true (List.mem_filter.mp member).2
        · left
          rw [← same, List.length_take]
          omega
      · intro placed
        rcases placed with full | lower
        · symm
          apply kept.eq_of_length_le
          rw [full]
          exact List.length_take_le _ _
        · have whole := (induction positive).mpr lower.2
          have all_below : ∀ other ∈ enclosing level items, level other < depth + 1 := by
            induction items using List.reverseRecOn with
            | nil => exact fun other member => absurd member List.not_mem_nil
            | append_singleton items last _ =>
                exact enclosing_below items last (lower.1 last List.getLast?_concat)
          have short : (stacked level items).length ≤ depth := by
            apply Nat.not_lt.mp
            intro deeper
            have reached : ∃ entry, (stacked level items)[depth]? = some entry :=
              ⟨_, List.getElem?_eq_getElem deeper⟩
            obtain ⟨_, entry⟩ := reached
            have deep := stacked_level positive entry
            have member := List.mem_of_getElem? entry
            rw [whole] at member
            have shallow := all_below _ member
            omega
          rw [List.take_of_length_le short, whole]
          symm
          rw [List.filter_eq_self]
          exact fun other member => decide_eq_true (all_below other member)

end Ancestry

end Foundation
